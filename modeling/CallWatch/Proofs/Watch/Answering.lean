import CallWatch.Proofs.Watch.Session
import CallWatch.Watch.Exchange

/-!
# What an operation does to a watchdog

`Watchdog.Step` lists all that an operation can do: a `watch` refuses and changes nothing, or it
starts a session of a transaction that nobody had claimed; what is about another transaction than
the armed one is ignored; the rest is noted or ends the session.  `Watchdog.step_perform` says that
there is nothing else.

A session is what its notes make it: `Session.ofNotes` tells from the operations alone what it
holds.
-/

namespace CallWatch

/-! ### Notes -/

namespace WatchOp

/-- The trace line that an operation writes. -/
def line? : WatchOp → Option String
  | .writeTrace _ line => some line
  | _ => none

/-- The location and the value that an operation records. -/
def record? : WatchOp → Option (Word × Word)
  | .recordStorage _ location value => some (location, value)
  | _ => none

/-- Whether an operation flags a failure. -/
def flags : WatchOp → Bool
  | .flagThrow _ => true
  | _ => false

/-- Whether an operation asks for a session. -/
def starts : WatchOp → Bool
  | .watch _ => true
  | _ => false

/-- Whether an operation ends the session of its transaction. -/
def ends : WatchOp → Bool
  | .finish _ _ | .disarm _ => true
  | _ => false

theorem arms_watch_iff {hash : Word} {tx : Transaction} {answer : Except Unreadable Bool} :
    (WatchOp.watch tx).arms hash answer = true ↔ answer = .ok true ∧ tx.hash = hash := by
  rcases answer with fault | _ | _
  · exact ⟨nofun, fun h => nomatch h.1⟩
  · exact ⟨nofun, fun h => nomatch h.1⟩
  · exact decide_eq_true_iff.trans (and_iff_right rfl).symm

/-- Only an operation that ends sessions is answered with a report. -/
theorem report?_of_ends {op : WatchOp} (h : op.ends = false) (answer : op.Answer) :
    op.report? answer = none := by
  cases op with
  | finish | disarm => cases h
  | watch | recordStorage | writeTrace | flagThrow => rfl

/-- Only a `watch` arms a watchdog. -/
theorem arms_of_starts {op : WatchOp} (h : op.starts = false) (hash : Word) (answer : op.Answer) :
    op.arms hash answer = false := by
  cases op with
  | watch => cases h
  | finish | disarm | recordStorage | writeTrace | flagThrow => rfl

end WatchOp

namespace Session

/-- The session of a transaction after the notes that some operations make. -/
def ofNotes (txHash : Word) (target : Address) (balanceBefore : Word) (ops : List WatchOp) :
    Session where
  txHash
  target
  balanceBefore
  trace := (ops.filterMap WatchOp.line?).toArray
  storage := .ofRecords (ops.filterMap WatchOp.record?)
  hasThrow := ops.any WatchOp.flags

/-- A session after one more operation about its transaction. -/
def take (session : Session) : WatchOp → Session
  | .recordStorage _ location value =>
    { session with storage := session.storage.record location value }
  | .writeTrace _ line => { session with trace := session.trace.push line }
  | .flagThrow _ => { session with hasThrow := true }
  | .watch _ | .finish _ _ | .disarm _ => session

@[simp] theorem txHash_take (session : Session) (op : WatchOp) :
    (session.take op).txHash = session.txHash := by
  cases op <;> rfl

/-- **Notes are taken in order.** -/
theorem take_ofNotes (txHash : Word) (target : Address) (balance : Word) (ops : List WatchOp)
    (op : WatchOp) :
    (ofNotes txHash target balance ops).take op =
      ofNotes txHash target balance (ops ++ [op]) := by
  unfold ofNotes StorageDiff.ofRecords
  cases op <;>
    simp only [take, List.filterMap_append, List.filterMap_cons, List.filterMap_nil,
      WatchOp.line?, WatchOp.record?, WatchOp.flags, List.any_append, List.any_cons, List.any_nil,
      List.foldl_append, List.foldl_cons, List.foldl_nil, List.append_nil, Bool.or_false,
      Bool.or_true, List.push_toArray]

end Session

/-! ### Steps -/

namespace Watchdog

/-- What an operation can do to a watchdog, with the answer to it. -/
inductive Step (balanceOf : Address → Except Unreadable Word) (dog : Watchdog) :
    (op : WatchOp) → op.Answer → Watchdog → Prop
  /-- A `watch` refuses, for whatever reason. -/
  | refused {tx : Transaction} {answer : Except Unreadable Bool} (hanswer : answer ≠ .ok true) :
      Step balanceOf dog (.watch tx) answer dog
  /-- A `watch` starts a session of a transaction that was not claimed before, and claims it. -/
  | armed {tx : Transaction} {target : Address} {balance : Word} (hidle : dog.session = none)
      (hfree : dog.registry.contains tx.hash = false) (htarget : tx.target? = some target)
      (hbalance : balanceOf target = .ok balance) :
      Step balanceOf dog (.watch tx) (.ok true)
        { dog with
          registry := dog.registry.insert tx.hash
          session := some (.ofNotes tx.hash target balance []) }
  /-- The watchdog is not armed for the transaction. -/
  | ignored {op : WatchOp} {answer : op.Answer} (hop : op.starts = false)
      (hother : dog.isWatching op.hash = false) (hanswer : op.report? answer = none) :
      Step balanceOf dog op answer dog
  /-- The session takes a note. -/
  | noted {op : WatchOp} {answer : op.Answer} {session : Session} (hop : op.starts = false)
      (hends : op.ends = false) (hsession : dog.session = some session)
      (hhash : session.txHash = op.hash) :
      Step balanceOf dog op answer { dog with session := some (session.take op) }
  /-- The session is over; if there is a report, it is made from the session. -/
  | ended {op : WatchOp} {answer : op.Answer} {session : Session} (hop : op.starts = false)
      (hends : op.ends = true) (hsession : dog.session = some session)
      (hhash : session.txHash = op.hash)
      (hreport : ∀ report, op.report? answer = some report →
        ∃ receipt tracer balance, op = .finish receipt tracer ∧
          balanceOf session.target = .ok balance ∧
          report = session.report balance receipt tracer) :
      Step balanceOf dog op answer { dog with session := none }

variable {balanceOf : Address → Except Unreadable Word}

theorem watchTarget?_eq_some_iff {dog : Watchdog} {tx : Transaction} {target : Address} :
    dog.watchTarget? tx = some target ↔
      dog.isEnabled = true ∧ dog.registry.contains tx.hash = false ∧
        tx.target? = some target := by
  rw [watchTarget?, Option.ite_none_right_eq_some, Bool.and_eq_true, Bool.not_eq_true', and_assoc]

/-- **Arming is all or nothing.** -/
theorem step_watch (dog : Watchdog) (tx : Transaction) :
    Step balanceOf dog (.watch tx) (dog.watch balanceOf tx).1 (dog.watch balanceOf tx).2 := by
  unfold watch
  cases htarget : dog.watchTarget? tx with
  | none => exact .refused nofun
  | some target =>
    obtain ⟨-, hfree, htarget⟩ := watchTarget?_eq_some_iff.1 htarget
    dsimp only
    cases hbalance : balanceOf target with
    | error fault => exact .refused nofun
    | ok balance =>
      dsimp only
      cases hsession : dog.session with
      | some session =>
        rw [Option.isSome_some, if_pos rfl]
        exact .refused nofun
      | none =>
        rw [Registry.claim, hfree]
        exact .armed hsession hfree htarget hbalance

theorem isWatching_eq_false_of_sessionFor? {dog : Watchdog} {hash : Word}
    (h : dog.sessionFor? hash = none) : dog.isWatching hash = false := by
  rw [Bool.eq_false_iff]
  intro hwatching
  obtain ⟨session, hsession⟩ := isWatching_iff.1 hwatching
  rw [sessionFor?_eq_some_iff.2 hsession] at h
  cases h

theorem step_finish (dog : Watchdog) (receipt : Receipt) (tracer : Option Json) :
    Step balanceOf dog (.finish receipt tracer) (dog.finish balanceOf receipt tracer).1
      (dog.finish balanceOf receipt tracer).2 := by
  unfold finish
  cases hsession : dog.sessionFor? receipt.txHash with
  | none => exact .ignored rfl (isWatching_eq_false_of_sessionFor? hsession) rfl
  | some session =>
    obtain ⟨hsession, hhash⟩ := sessionFor?_eq_some_iff.1 hsession
    dsimp only
    cases hbalance : balanceOf session.target with
    | error fault => exact .ended rfl rfl hsession hhash nofun
    | ok balance =>
      dsimp only
      split
      · exact .ended rfl rfl hsession hhash nofun
      · refine .ended rfl rfl hsession hhash ?_
        rintro report ⟨⟩
        exact ⟨receipt, tracer, balance, rfl, hbalance, rfl⟩

theorem step_disarm (dog : Watchdog) (hash : Word) :
    Step balanceOf dog (.disarm hash) (dog.disarm hash).1 (dog.disarm hash).2 := by
  unfold disarm
  split
  next h =>
    obtain ⟨session, hsession, hhash⟩ := isWatching_iff.1 h
    exact .ended rfl rfl hsession hhash nofun
  next h => exact .ignored rfl (Bool.eq_false_iff.2 h) rfl

/-- An operation that only takes notes. -/
theorem step_note {dog : Watchdog} {op : WatchOp} {answer : op.Answer} (hop : op.starts = false)
    (hends : op.ends = false) (hanswer : op.report? answer = none) :
    Step balanceOf dog op answer (dog.note op.hash (·.take op)) := by
  cases hsession : dog.session with
  | none =>
    have hnote : dog.note op.hash (·.take op) = dog := by
      rw [note, hsession, Option.map_none, ← hsession]
    rw [hnote]
    refine .ignored hop ?_ hanswer
    rw [isWatching, armed?, hsession]
    rfl
  | some session =>
    by_cases hhash : session.txHash = op.hash
    · rw [note, hsession, Option.map_some, if_pos hhash]
      exact .noted hop hends hsession hhash
    · have hnote : dog.note op.hash (·.take op) = dog := by
        rw [note, hsession, Option.map_some, if_neg hhash, ← hsession]
      rw [hnote]
      refine .ignored hop ?_ hanswer
      rw [isWatching, armed?, hsession]
      simpa using hhash

/-- **Every operation takes one of the steps.** -/
theorem step_perform (dog : Watchdog) (op : WatchOp) :
    Step balanceOf dog op (dog.perform balanceOf op).1 (dog.perform balanceOf op).2 := by
  cases op with
  | watch tx => exact step_watch dog tx
  | finish receipt tracer => exact step_finish dog receipt tracer
  | disarm hash => exact step_disarm dog hash
  | recordStorage | writeTrace | flagThrow => exact step_note rfl rfl rfl

/-- **A report is that of the session that `finish` ends.** -/
theorem Step.of_report {dog dog' : Watchdog} {op : WatchOp} {answer : op.Answer} {report : Report}
    (h : Step balanceOf dog op answer dog') (hreport : op.report? answer = some report) :
    ∃ receipt tracer session balance, op = .finish receipt tracer ∧
      dog.session = some session ∧ session.txHash = receipt.txHash ∧
      balanceOf session.target = .ok balance ∧
      report = session.report balance receipt tracer := by
  cases h with
  | refused | armed => cases hreport
  | ignored _ _ hanswer =>
    rw [hanswer] at hreport
    cases hreport
  | noted _ hends =>
    rw [WatchOp.report?_of_ends hends] at hreport
    cases hreport
  | ended _ _ hsession hhash hended =>
    obtain ⟨receipt, tracer, balance, rfl, hbalance, rfl⟩ := hended report hreport
    exact ⟨receipt, tracer, _, balance, rfl, hsession, hhash, hbalance, rfl⟩

end Watchdog

end CallWatch
