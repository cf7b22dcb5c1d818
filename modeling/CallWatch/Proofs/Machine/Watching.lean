import CallWatch.Proofs.Machine.Release

/-!
# Watchdogs over a store that never refuses

Where no call is refused, every balance can be read.  Then a watchdog operation is answered by the
pair alone (`Run.watchdog_eq`), the pair can always be armed (`Host.arm_eq`) and always be finalized
(`Run.finalize_eq`), and nothing but the pair is changed.

Arming, flagging and finalizing go to both watchdogs, the general one first: `WatchPair.both` is
what they have in common.
-/

namespace CallWatch

/-- What a watchdog reads where no call is refused. -/
def Machine.balanceOf (m : Machine NoFaults) (a : Address) : Except Unreadable Word :=
  .ok (m.store.ledger.accounts.get a).balance

/-- The machine after a watchdog operation. -/
def Machine.afterWatchdog (m : Machine NoFaults) (kind : WatchKind) (op : WatchOp) :
    Machine NoFaults :=
  { m with pair := (m.pair.perform m.balanceOf kind op).2 }

/-! ### One watchdog -/

namespace Watchdog

variable {balanceOf balanceOf' : Address → Except Unreadable Word}

/-- Of all balances, an operation sees the one that it announces. -/
theorem perform_congr (dog : Watchdog) (op : WatchOp)
    (h : ∀ a, dog.reading? op = some a → balanceOf a = balanceOf' a) :
    dog.perform balanceOf op = dog.perform balanceOf' op := by
  cases op with
  | watch tx =>
    show dog.watch balanceOf tx = dog.watch balanceOf' tx
    unfold watch
    cases htarget : dog.watchTarget? tx with
    | none => rfl
    | some target =>
      dsimp only
      rw [h target htarget]
  | finish receipt tracer =>
    show dog.finish balanceOf receipt tracer = dog.finish balanceOf' receipt tracer
    unfold finish
    cases hsession : dog.sessionFor? receipt.txHash with
    | none => rfl
    | some session =>
      have hreading : dog.reading? (.finish receipt tracer) = some session.target := by
        simp only [reading?, finishTarget?, hsession, Option.map_some]
      dsimp only
      rw [h session.target hreading]
  | disarm | recordStorage | writeTrace | flagThrow => rfl

/-- A watchdog that can read every balance can say whether it is armed. -/
theorem watch_readable (dog : Watchdog) (balance : Address → Word) (tx : Transaction) :
    ∃ isArmed, (dog.watch (fun a => .ok (balance a)) tx).1 = .ok isArmed := by
  unfold watch
  cases dog.watchTarget? tx with
  | none => exact ⟨false, rfl⟩
  | some target =>
    dsimp only
    split
    · exact ⟨false, rfl⟩
    · split
      · exact ⟨true, rfl⟩
      · exact ⟨false, rfl⟩

/-- A watchdog that can read every balance ends its session without a fault. -/
theorem finish_readable (dog : Watchdog) (balance : Address → Word) (receipt : Receipt)
    (tracer : Option Json) :
    ∃ report?, (dog.finish (fun a => .ok (balance a)) receipt tracer).1 = .ok report? := by
  unfold finish
  cases dog.sessionFor? receipt.txHash with
  | none => exact ⟨none, rfl⟩
  | some session =>
    dsimp only
    split
    · exact ⟨none, rfl⟩
    · exact ⟨_, rfl⟩

end Watchdog

/-! ### Both watchdogs -/

namespace WatchPair

/-- The pair after an operation on the general watchdog and then one on the tracer. -/
def both (pair : WatchPair) (balanceOf : Address → Except Unreadable Word)
    (op : WatchKind → WatchOp) : WatchPair :=
  ((pair.perform balanceOf .general (op .general)).2.perform balanceOf .tracer (op .tracer)).2

variable {balanceOf : Address → Except Unreadable Word}

/-- Each watchdog performs its own operation. -/
theorem get_both (pair : WatchPair) (op : WatchKind → WatchOp) (kind : WatchKind) :
    (pair.both balanceOf op).get kind = ((pair.get kind).perform balanceOf (op kind)).2 := by
  cases kind <;> rfl

/-- The reports are sent off in that order. -/
theorem outbox_both (pair : WatchPair) (op : WatchKind → WatchOp) :
    (pair.both balanceOf op).outbox =
      (pair.outbox.send? ((op .general).report?
        ((pair.get .general).perform balanceOf (op .general)).1)).send? ((op .tracer).report?
        ((pair.get .tracer).perform balanceOf (op .tracer)).1) :=
  rfl

end WatchPair

/-- How a receipt ends the sessions of a pair: the tracer gets the call log. -/
def Receipt.finishing (receipt : Receipt) (log : Json) : WatchKind → WatchOp
  | .general => .finish receipt none
  | .tracer => .finish receipt (some log)

namespace Run

/-- **A watchdog operation is answered by the pair**, and changes nothing else. -/
theorem watchdog_eq (kind : WatchKind) (op : WatchOp) (m : Machine NoFaults) :
    watchdog kind op m =
      (.ok (m.pair.perform m.balanceOf kind op).1, m.afterWatchdog kind op) := by
  have hcongr (balance : Except Unreadable Word)
      (h : ∀ a, (m.pair.get kind).reading? op = some a → balance = m.balanceOf a) :
      m.pair.perform (fun _ => balance) kind op = m.pair.perform m.balanceOf kind op := by
    unfold WatchPair.perform
    rw [Watchdog.perform_congr _ op h]
  rw [Machine.afterWatchdog]
  cases hreading : (m.pair.get kind).reading? op with
  | none =>
    rw [← hcongr (.ok 0) fun a h => by rw [hreading] at h; cases h]
    simp only [watchdog, bind_apply, get_apply, hreading]
    rfl
  | some a =>
    have hread : readBalance a m = (.ok (m.balanceOf a), m) := rfl
    rw [← hcongr (m.balanceOf a) fun b h => by rw [hreading] at h; cases h; rfl]
    simp only [watchdog, bind_apply, get_apply, hreading, hread]
    rfl

theorem watchdog_of_answer {kind : WatchKind} {op : WatchOp} {m : Machine NoFaults}
    {answer : op.Answer} (h : (m.pair.perform m.balanceOf kind op).1 = answer) :
    watchdog kind op m = (.ok answer, m.afterWatchdog kind op) := by
  rw [watchdog_eq, h]

/-- Flagging a failure reaches both watchdogs. -/
theorem markThrown_eq (hash : Word) (m : Machine NoFaults) :
    markThrown hash m =
      (.ok (), { m with pair := m.pair.both m.balanceOf fun _ => .flagThrow hash }) := by
  rw [markThrown, bind_of_ok (watchdog_eq _ _ m), watchdog_eq]
  rfl

/-- **Both watchdogs are always finalized.** -/
theorem finalize_eq (receipt : Receipt) (m : Machine NoFaults) :
    finalize receipt m =
      (.ok none, { m with
        pair := m.pair.both m.balanceOf (receipt.finishing m.log.toJson) }) := by
  obtain ⟨report?, hgeneral⟩ := (m.pair.get .general).finish_readable
    (fun a => (m.store.ledger.accounts.get a).balance) receipt none
  obtain ⟨report?', htracer⟩ := (m.pair.get .tracer).finish_readable
    (fun a => (m.store.ledger.accounts.get a).balance) receipt (some m.log.toJson)
  have hfirst : watchdog .general (.finish receipt none) m =
      (.ok (.ok report?), m.afterWatchdog .general (.finish receipt none)) :=
    watchdog_of_answer hgeneral
  have hsecond : watchdog .tracer (.finish receipt (some m.log.toJson))
      (m.afterWatchdog .general (.finish receipt none)) = (.ok (.ok report?'), _) :=
    watchdog_of_answer htracer
  rw [finalize, bind_of_ok hfirst, bind_of_ok (get_apply _)]
  exact bind_of_ok hsecond _

end Run

namespace Host

open Run

/-- **The pair can always be armed.** -/
theorem arm_eq (tx : Transaction) (m : Machine NoFaults) :
    arm tx m = (.ok (), { m with pair := m.pair.both m.balanceOf fun _ => .watch tx }) := by
  obtain ⟨isArmed, hgeneral⟩ := (m.pair.get .general).watch_readable
    (fun a => (m.store.ledger.accounts.get a).balance) tx
  obtain ⟨isArmed', htracer⟩ := (m.pair.get .tracer).watch_readable
    (fun a => (m.store.ledger.accounts.get a).balance) tx
  have hfirst : watchdog .general (.watch tx) m =
      (.ok (.ok isArmed), m.afterWatchdog .general (.watch tx)) :=
    watchdog_of_answer hgeneral
  exact arm_of_ok hfirst (watchdog_of_answer htracer)

end Host

end CallWatch
