import CallWatch.Proofs.Watch.Session
import CallWatch.Watch.Kennel
import Mathlib.Tactic.Common

/-!
# Where a report arrives

However dispatchers are nested, a report is handed to each outlet once, from left to right, and
what becomes of the delivery follows from the tries alone (`Delivery.ofAttempts`): the shape of
the tree does not matter (`Sink.deliver_eq`, `Sink.outlets_deliver`).  The watchdog that made the
report does not wait for any of this (`Kennel.perform?_finish`).

`Outbox.reports` lists what was handed to a sink so far; it grows at its end, by one report at a
time (`Outbox.reports_send`).
-/

namespace CallWatch

/-! ### Tries -/

namespace Delivery

/-- What becomes of a delivery that consists of these tries: the first fault counts. -/
def ofAttempts (attempts : List Attempt) : Delivery where
  attempts
  fault := attempts.findSome? (·.fault)

theorem ofAttempts_append (attempts others : List Attempt) :
    ofAttempts (attempts ++ others) = (ofAttempts attempts).andThen (ofAttempts others) := by
  rw [ofAttempts, List.findSome?_append, andThen, Option.orElse_eq_orElse, Option.orElse_eq_or]
  rfl

theorem ofAttempts_singleton (attempt : Attempt) :
    ofAttempts [attempt] = { attempts := [attempt], fault := attempt.fault } := by
  rw [ofAttempts, List.findSome?_singleton]

end Delivery

/-! ### Trees of outlets -/

namespace Sink

variable (report : Report)

mutual

/-- **A delivery consists of a try at every outlet**, from left to right. -/
theorem deliver_eq : ∀ sink : Sink,
    (sink.deliver report).1 = .ofAttempts (sink.outlets.map fun o => (o.deliver report).1)
  | outlet _ => (Delivery.ofAttempts_singleton _).symm
  | dispatcher sinks => deliverAll_eq sinks

theorem deliverAll_eq : ∀ sinks : List Sink,
    (deliverAll report sinks).1 =
      .ofAttempts ((outletsOf sinks).map fun o => (o.deliver report).1)
  | [] => rfl
  | sink :: rest => by
    rw [outletsOf, List.map_append, Delivery.ofAttempts_append, ← deliver_eq sink,
      ← deliverAll_eq rest]
    rfl

end

mutual

/-- Every outlet is left as by its own try. -/
theorem outlets_deliver : ∀ sink : Sink,
    (sink.deliver report).2.outlets = sink.outlets.map fun o => (o.deliver report).2
  | outlet _ => rfl
  | dispatcher sinks => outletsOf_deliverAll sinks

theorem outletsOf_deliverAll : ∀ sinks : List Sink,
    outletsOf (deliverAll report sinks).2 = (outletsOf sinks).map fun o => (o.deliver report).2
  | [] => rfl
  | sink :: rest => by
    rw [outletsOf, List.map_append, ← outlets_deliver sink, ← outletsOf_deliverAll rest]
    rfl

end

theorem outletsOf_map_outlet (outlets : List Outlet) :
    outletsOf (outlets.map outlet) = outlets := by
  induction outlets with
  | nil => rfl
  | cons o rest ih => exact congrArg (o :: ·) ih

/-- A delivery succeeds if all tries do. -/
theorem fault_deliver_eq_none_iff {sink : Sink} :
    (sink.deliver report).1.fault = none ↔
      ∀ o ∈ sink.outlets, (o.deliver report).1.fault = none := by
  rw [deliver_eq, Delivery.ofAttempts, List.findSome?_eq_none_iff]
  exact List.forall_mem_map

/-- A delivery fails with the fault of the first try that does. -/
theorem fault_deliver_eq_some_iff {sink : Sink} {fault : DeliveryFault} :
    (sink.deliver report).1.fault = some fault ↔
      ∃ earlier o later, sink.outlets = earlier ++ o :: later ∧
        (o.deliver report).1.fault = some fault ∧
        ∀ other ∈ earlier, (other.deliver report).1.fault = none := by
  rw [deliver_eq, Delivery.ofAttempts, List.findSome?_map, List.findSome?_eq_some_iff]
  rfl

end Sink

/-! ### What was handed to a sink -/

namespace Outbox

/-- The reports that were handed to the sink, in order. -/
def reports (outbox : Outbox) : List Report :=
  outbox.sent.toList.map (·.1)

theorem reports_send (outbox : Outbox) (report : Report) :
    (outbox.send report).reports = outbox.reports ++ [report] := by
  rw [reports, send, Array.toList_push, List.map_append]
  rfl

theorem reports_send? (outbox : Outbox) (report? : Option Report) :
    (outbox.send? report?).reports = outbox.reports ++ report?.toList := by
  cases report? with
  | none => exact (List.append_nil _).symm
  | some report => exact reports_send outbox report

theorem reports_foldl_send (reports : List Report) (outbox : Outbox) :
    (reports.foldl send outbox).reports = outbox.reports ++ reports := by
  induction reports generalizing outbox with
  | nil => exact (List.append_nil _).symm
  | cons report reports ih =>
    rw [List.foldl_cons, ih, reports_send, List.append_assoc, List.singleton_append]

end Outbox

/-! ### The watchdog that made the report -/

namespace Kennel

/-- A watchdog that ends a session with a trace answers with the report and is at rest, and the
report is handed to the sink. -/
theorem perform?_finish {kennel : Kennel} {i : Nat} {member : Member} {receipt : Receipt}
    {session : Session} {balance : Word} (hmember : kennel.members[i]? = some member)
    (hsession : (kennel.lend member).sessionFor? receipt.txHash = some session)
    (htrace : session.trace.isEmpty = false)
    (hbalance : kennel.balanceOf session.target = .ok balance) (tracer : Option Json) :
    ∃ after, kennel.perform? i (.finish receipt tracer) =
        some (.ok (some (session.report balance receipt tracer)), after) ∧
      after.members[i]?.map (·.dog.session) = some none ∧
      after.outbox = kennel.outbox.send (session.report balance receipt tracer) := by
  have hfinish : (kennel.lend member).finish kennel.balanceOf receipt tracer =
      (.ok (some (session.report balance receipt tracer)),
        { kennel.lend member with session := none }) := by
    rw [Watchdog.finish, hsession]
    simp only [hbalance, htrace, Bool.false_eq_true, if_false]
  obtain ⟨hplace, -⟩ := List.getElem?_eq_some_iff.1 hmember
  unfold perform?
  rw [hmember]
  simp only [Option.map_some, Watchdog.perform, hfinish]
  refine ⟨_, rfl, ?_, rfl⟩
  rw [List.getElem?_set_self hplace]
  rfl

end Kennel

/-- **A tree of dispatchers is as good as the list of its outlets.**  Whatever fails, each outlet
is tried once, from left to right; the delivery succeeds if all tries do and has the fault of the
first one that does not; and a single dispatcher with the same outlets makes the same of it.  The
watchdog does not notice: it answers with the report and is at rest, whatever comes of it. -/
theorem Sink.deliver_flat (sink : Sink) (report : Report) :
    (sink.deliver report).1.attempts = sink.outlets.map (fun o => (o.deliver report).1) ∧
    (sink.deliver report).2.outlets = sink.outlets.map (fun o => (o.deliver report).2) ∧
    ((sink.deliver report).1.fault = none ↔
      ∀ o ∈ sink.outlets, (o.deliver report).1.fault = none) ∧
    (∀ fault, (sink.deliver report).1.fault = some fault ↔
      ∃ earlier o later, sink.outlets = earlier ++ o :: later ∧
        (o.deliver report).1.fault = some fault ∧
        ∀ other ∈ earlier, (other.deliver report).1.fault = none) ∧
    ((dispatcher (sink.outlets.map outlet)).deliver report).1 = (sink.deliver report).1 ∧
    ((dispatcher (sink.outlets.map outlet)).deliver report).2.outlets =
      (sink.deliver report).2.outlets ∧
    ∀ (kennel : Kennel) (i : Nat) (member : Member) (receipt : Receipt) (tracer : Option Json)
      (session : Session) (balance : Word),
      kennel.outbox.sink = sink →
      kennel.members[i]? = some member →
      (kennel.lend member).sessionFor? receipt.txHash = some session →
      session.trace.isEmpty = false →
      kennel.balanceOf session.target = .ok balance →
      let made := session.report balance receipt tracer
      ∃ after, kennel.perform? i (.finish receipt tracer) = some (.ok (some made), after) ∧
        after.members[i]?.map (·.dog.session) = some none ∧
        after.outbox.sink = (sink.deliver made).2 ∧
        after.outbox.sent = kennel.outbox.sent.push (made, (sink.deliver made).1) := by
  have hflat : (dispatcher (sink.outlets.map outlet)).outlets = sink.outlets :=
    outletsOf_map_outlet sink.outlets
  refine ⟨?attempts, outlets_deliver report sink, fault_deliver_eq_none_iff report,
    fun fault => fault_deliver_eq_some_iff report, ?delivery, ?outlets, ?watchdog⟩
  case attempts => rw [deliver_eq, Delivery.ofAttempts]
  case delivery => rw [deliver_eq, deliver_eq, hflat]
  case outlets => rw [outlets_deliver, outlets_deliver, hflat]
  case watchdog =>
    rintro kennel i member receipt tracer session balance rfl hmember hsession htrace hbalance
    obtain ⟨after, hperform, hidle, houtbox⟩ :=
      kennel.perform?_finish hmember hsession htrace hbalance tracer
    exact ⟨after, hperform, hidle, congrArg Outbox.sink houtbox, congrArg Outbox.sent houtbox⟩

/-- An empty dispatcher, and one whose first outlet cannot be reached. -/
theorem Sink.deliver_flat_nested :
    let sink : Sink := .dispatcher
      [.dispatcher [], .dispatcher [.outlet (.failing .unreachable), .outlet .recording]]
    let session : Session :=
      { txHash := 1, target := 2, balanceBefore := 0, trace := #["call"] }
    let receipt : Receipt := ⟨1, true, 0, 0, none, []⟩
    let made := session.report 0 receipt none
    let kennel : Kennel :=
      { members := [{ dog := { kind := .general, session := some session } }], outbox := { sink } }
    (sink.deliver made).1.fault = some .unreachable ∧
      ∃ after, kennel.perform? 0 (.finish receipt none) = some (.ok (some made), after) ∧
        after.members[0]?.map (·.dog.session) = some none := by
  intro sink session receipt made kennel
  obtain ⟨-, -, -, hfault, -, -, hdog⟩ := sink.deliver_flat made
  refine ⟨(hfault .unreachable).2 ⟨[], .failing .unreachable, [.recording], rfl, rfl, nofun⟩, ?_⟩
  have hbalance : kennel.balanceOf session.target = .ok 0 :=
    congrArg Except.ok Std.ExtTreeMap.getD_empty
  obtain ⟨after, hperform, hidle, -⟩ :=
    hdog kennel 0 _ receipt none session 0 rfl rfl rfl rfl hbalance
  exact ⟨after, hperform, hidle⟩

end CallWatch
