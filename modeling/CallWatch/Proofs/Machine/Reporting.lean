import CallWatch.Proofs.Machine.Gas
import CallWatch.Proofs.Machine.Telling
import CallWatch.Proofs.Machine.Watching
import CallWatch.Proofs.Watch.Delivering

/-!
# What is reported of a transaction

A call transaction is executed over a store that never refuses, with both watchdogs ready for it
(`Watchdog.IsReady`), and none of its programs raises its gas.  Whatever becomes of it, the two
watchdogs go through the same states: they are armed with the same session, hear the same events,
are flagged alike and are finalized with the same receipt (`Host.exists_finalized_of_arm`).  So the
sink gets two reports that differ in the call log alone, or none if no trace line was written
(`Host.execute_reports`).

`WatchPair.Holds` says that both hold a session; the lemmas about it follow the phases.
-/

namespace CallWatch

open Run

/-- A watchdog can be armed for a transaction: it is enabled and at rest, and the hash is new. -/
structure Watchdog.IsReady (hash : Word) (dog : Watchdog) : Prop where
  enabled : dog.isEnabled = true
  idle : dog.session = none
  unseen : hash ∉ dog.registry

/-- The receipt of a transaction whose run failed. -/
def Transaction.failedReceipt (tx : Transaction) : Receipt where
  txHash := tx.hash
  succeeded := false
  gasUsed := tx.gasLimit
  cumulativeGasUsed := tx.gasLimit

/-- The receipt that belongs to the end of a transaction.  Where there is an execution, it is that
of the execution, its gas adds up, and it tells a success from a failure. -/
def Transaction.IsReceipt (tx : Transaction) (receipt : Receipt) : Except Stop Execution → Prop
  | .ok execution =>
    receipt = execution.receipt ∧ receipt.txHash = tx.hash ∧
      receipt.gasUsed = execution.gasUsed ∧
      execution.gasUsed.toNat + execution.gasLeft.toNat = tx.gasLimit.toNat ∧
      receipt.succeeded = execution.result.isSuccess
  | .error _ => receipt = tx.failedReceipt

/-! ### The phases of a pair -/

namespace WatchPair

/-- Both watchdogs hold this session. -/
def Holds (pair : WatchPair) (s : Session) : Prop :=
  ∀ kind, (pair.get kind).session = some s

variable {pair : WatchPair} {s : Session} (balance : Address → Word)

/-- A pair that is ready is armed with the same session on both sides, and sends nothing. -/
theorem holds_watch {tx : Transaction} {target : Address} (htarget : tx.target? = some target)
    (h : ∀ kind, (pair.get kind).IsReady tx.hash) :
    (pair.both (fun a => .ok (balance a)) fun _ => .watch tx).Holds
        { txHash := tx.hash, target, balanceBefore := balance target } ∧
      (pair.both (fun a => .ok (balance a)) fun _ => .watch tx).outbox = pair.outbox := by
  constructor
  · intro kind
    obtain ⟨henabled, hidle, hunseen⟩ := h kind
    have hnew : (pair.get kind).registry.contains tx.hash = false := by
      rw [Bool.eq_false_iff]
      exact fun hmem => hunseen (Std.ExtTreeSet.mem_iff_contains.2 hmem)
    have hreading : (pair.get kind).watchTarget? tx = some target := by
      rw [Watchdog.watchTarget?, henabled, hnew]
      exact htarget
    rw [get_both]
    show ((pair.get kind).watch _ tx).2.session = _
    rw [Watchdog.watch, hreading]
    simp only [hidle, Registry.claim, hnew]
    rfl
  · exact outbox_both pair _

/-- A failure is flagged in both sessions. -/
theorem holds_flagThrow (h : pair.Holds s) :
    (pair.both (fun a => .ok (balance a)) fun _ => .flagThrow s.txHash).Holds (s.hear .throw) ∧
      (pair.both (fun a => .ok (balance a)) fun _ => .flagThrow s.txHash).outbox = pair.outbox := by
  constructor
  · intro kind
    rw [get_both]
    exact Watchdog.session_iterate_hear (h kind) .throw 1
  · exact outbox_both pair _

/-- **Two sessions that are the same make two reports that differ in the call log alone.** -/
theorem outbox_finish (h : pair.Holds s) {receipt : Receipt} (hreceipt : receipt.txHash = s.txHash)
    (log : Json) :
    (pair.both (fun a => .ok (balance a)) (receipt.finishing log)).outbox =
      if s.trace.isEmpty then pair.outbox
      else (pair.outbox.send (s.report (balance s.target) receipt none)).send
        (s.report (balance s.target) receipt (some log)) := by
  have hanswer (kind : WatchKind) (tracer : Option Json) :
      ((pair.get kind).finish (fun a => .ok (balance a)) receipt tracer).1 =
        .ok (if s.trace.isEmpty then none
          else some (s.report (balance s.target) receipt tracer)) := by
    have hsession : (pair.get kind).sessionFor? receipt.txHash = some s :=
      Watchdog.sessionFor?_eq_some_iff.2 ⟨h kind, hreceipt.symm⟩
    rw [Watchdog.finish, hsession]
    dsimp only
    split <;> rfl
  rw [outbox_both]
  show (pair.outbox.send? (WatchOp.report? (.finish receipt none) _)).send?
    (WatchOp.report? (.finish receipt (some log)) _) = _
  rw [show ((pair.get .general).perform _ (receipt.finishing log .general)).1 = _ from
      hanswer .general none,
    show ((pair.get .tracer).perform _ (receipt.finishing log .tracer)).1 = _ from
      hanswer .tracer (some log)]
  by_cases hempty : s.trace.isEmpty = true
  · simp only [if_pos hempty]
    rfl
  · simp only [if_neg hempty]
    rfl

end WatchPair

namespace Host

variable {host : Host} {tx : Transaction} {m : Machine NoFaults}

/-! ### The ends of a transaction -/

/-- The pair of a machine after a failure is flagged. -/
def flagged (hash : Word) (m : Machine NoFaults) : Machine NoFaults :=
  { m with pair := m.pair.both m.balanceOf fun _ => .flagThrow hash }

/-- The machine after both watchdogs are finalized. -/
def finalized (receipt : Receipt) (m : Machine NoFaults) : Machine NoFaults :=
  { m with pair := m.pair.both m.balanceOf (receipt.finishing m.log.toJson) }

theorem abandon_eq (tx : Transaction) (failure : Failure) (m : Machine NoFaults) :
    abandon tx failure m =
      (.error (.failed failure), finalized tx.failedReceipt (flagged tx.hash m)) := by
  rw [abandon, bind_of_ok (markThrown_eq tx.hash m)]
  exact bind_of_ok (finalize_eq _ _) _

theorem flagResult_eq (hash : Word) (result : Result) (m : Machine NoFaults) :
    flagResult hash result m = (.ok (), if result.isSuccess then m else flagged hash m) := by
  unfold flagResult
  split
  · rfl
  · exact markThrown_eq hash m

/-- A run that hands back more gas than the transaction had is not finalized. -/
theorem conclude_of_lt {outcome : Outcome} (hgas : tx.gasLimit < outcome.gasLeft)
    (m : Machine NoFaults) :
    conclude tx outcome m = (.error (.failed (.internal .underflow)),
      if outcome.result.isSuccess then m else flagged tx.hash m) := by
  rw [conclude, bind_of_ok (flagResult_eq tx.hash outcome.result m),
    Checked.sub_eq_none_iff.2 hgas]
  rfl

/-- **A run that hands back no more gas than the transaction had is finalized**, with the receipt
of its execution. -/
theorem conclude_eq {outcome : Outcome} (hgas : outcome.gasLeft ≤ tx.gasLimit)
    (m : Machine NoFaults) :
    ∃ execution, conclude tx outcome m = (.ok execution, finalized execution.receipt
        (if outcome.result.isSuccess then m else flagged tx.hash m)) ∧
      tx.IsReceipt execution.receipt (.ok execution) := by
  obtain ⟨gasUsed, hused⟩ : ∃ gasUsed, Checked.sub tx.gasLimit outcome.gasLeft = some gasUsed :=
    ⟨tx.gasLimit - outcome.gasLeft, if_pos hgas⟩
  let receipt := outcome.receipt tx.hash gasUsed
  let execution : Execution := {
    result := outcome.result, gasUsed, gasLeft := outcome.gasLeft, output := outcome.output
    contractAddress := receipt.contractAddress, receipt }
  refine ⟨execution, ?_, rfl, rfl, rfl, Checked.sub_eq_some_iff.1 hused, rfl⟩
  rw [conclude, bind_of_ok (flagResult_eq tx.hash outcome.result m), hused]
  exact bind_of_ok (finalize_eq receipt _) _

/-! ### The phases of a transaction -/

/-- **A pair that is ready is armed**, both watchdogs with the same session. -/
theorem exists_arm_of_isReady {target : Address} (htarget : tx.target? = some target)
    (hready : ∀ kind, (m.pair.get kind).IsReady tx.hash) :
    ∃ m₁, arm tx m = (.ok (), m₁) ∧
      m₁.pair.Holds {
        txHash := tx.hash, target
        balanceBefore := (m.store.ledger.accounts.get target).balance } ∧
      m₁.pair.outbox = m.pair.outbox := by
  have hwatch := WatchPair.holds_watch (fun a => (m.store.ledger.accounts.get a).balance)
    htarget hready
  exact ⟨_, arm_eq tx m, hwatch⟩

/-- What happens in a transaction begins when its watchdogs are armed. -/
theorem executeHistory_of_arm {m₁ : Machine NoFaults} (harm : arm tx m = (.ok (), m₁)) :
    host.executeHistory tx m = host.rootHistory tx m₁ := by
  rw [executeHistory, History.andThen, harm]
  rfl

/-- Both sessions hear what the watchdogs are told, each once. -/
theorem holds_of_told {φ : Type} {m m' : Machine φ}
    (hwatchers : host.watchers = [.general, .tracer]) {s : Session} (h : m.pair.Holds s)
    (hbound : host.env.txHash = some s.txHash) {es : List Event} (htold : Told host es m m') :
    m'.pair.Holds (s.hearAll 1 es) := by
  intro kind
  have hcount : host.watchers.count kind = 1 := by
    rw [hwatchers]
    cases kind <;> rfl
  rw [show m'.pair = _ from htold, ← hcount]
  exact session_informAll (h kind) hbound es

/-- **Both sessions hear what happens in a run**, each once, and nothing is sent off meanwhile. -/
theorem holds_runRoot (hwatchers : host.watchers = [.general, .tracer]) {s : Session}
    (h : m.pair.Holds s) (hbound : host.env.txHash = some s.txHash) (tx : Transaction) :
    (host.runRoot tx m).2.pair.Holds (s.hearAll 1 (host.rootHistory tx m)) ∧
      (host.runRoot tx m).2.pair.outbox = m.pair.outbox := by
  have htold := host.pair_runRoot tx m
  refine ⟨holds_of_told hwatchers h hbound htold, ?_⟩
  rw [htold]
  exact outbox_informAll _ _

/-- A host on which account 9 writes trace lines around a call of account 8, which writes one and
fails. -/
def ofTracing : Host where
  env := { txHash := some 7 }
  rules := ChainConfig.rules (.allForksActive 1) 0
  interpreter := fun frame _ =>
    let ended (result : Except Failure Bytes) : Program FrameEnd :=
      .done { result, gasLeft := frame.gasRemaining }
    if frame.account = 9 then
      .ask (.trace "before") fun _ =>
        .ask (.dispatch (.call 9 8 [] 5 0)) fun _ =>
          .ask (.trace "after") fun _ => ended (.ok [])
    else .ask (.trace "inside") fun _ => ended (.error .reverted)

/-- A machine with code in both accounts and both watchdogs at rest. -/
def recording : Machine NoFaults where
  store := { ledger := (Ledger.seed {} 9 { code := [1] }).seed 8 { code := [2] }, faults := {} }
  pair := .enabled (.outlet .recording)

end Host

end CallWatch
