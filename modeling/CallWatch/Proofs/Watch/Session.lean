import CallWatch.Watch.Pair
import Mathlib.Order.Defs.Unbundled
import Mathlib.Tactic.Common

/-!
# Sessions that survive

Whatever a watchdog is asked about one transaction, the session of any other transaction is left
alone (`Watchdog.spares_perform`).  Taking notes does not end or start a session either
(`Watchdog.attends_note`), while `finish` and `disarm` leave the watchdog at rest for the
transaction that they name.

`WatchPair.get_perform` carries all of this over to a pair of watchdogs.
-/

namespace CallWatch

/-- The transaction that an operation is about. -/
def WatchOp.hash : WatchOp → Word
  | .watch tx => tx.hash
  | .finish receipt _ => receipt.txHash
  | .disarm hash | .recordStorage hash _ _ | .writeTrace hash _ | .flagThrow hash => hash

namespace Watchdog

variable {dog : Watchdog} {hash : Word} {balanceOf : Address → Except Unreadable Word}

theorem isWatching_iff :
    dog.isWatching hash = true ↔ ∃ s, dog.session = some s ∧ s.txHash = hash := by
  rw [isWatching, decide_eq_true_iff, armed?, Option.map_eq_some_iff]

theorem sessionFor?_eq_some_iff {session : Session} :
    dog.sessionFor? hash = some session ↔ dog.session = some session ∧ session.txHash = hash := by
  rw [sessionFor?, Option.filter_eq_some_iff, decide_eq_true_iff]

/-! ### Leaving other sessions alone -/

/-- A session of any other transaction is still there, with everything in it. -/
def Spares (hash : Word) (dog dog' : Watchdog) : Prop :=
  ∀ session, dog.session = some session → session.txHash ≠ hash → dog'.session = some session

instance : IsPreorder Watchdog (Spares hash) where
  refl _ _ h _ := h
  trans _ _ _ h h' session hs hne := h' session (h session hs hne) hne

/-- A change of a watchdog that has no other session spares it. -/
theorem spares_of_isWatching (h : dog.isWatching hash = true) (dog' : Watchdog) :
    dog.Spares hash dog' := by
  obtain ⟨s, hs, hhash⟩ := isWatching_iff.1 h
  intro session hsession hne
  rw [hs] at hsession
  cases hsession
  exact (hne hhash).elim

theorem spares_watch (dog : Watchdog) (tx : Transaction) :
    dog.Spares tx.hash (dog.watch balanceOf tx).2 := by
  unfold watch
  split
  · exact refl_of _ dog
  split
  · exact refl_of _ dog
  split
  · exact refl_of _ dog
  next hidle =>
    dsimp only
    split
    · -- a session is only started where there is none
      intro session hsession
      rw [hsession] at hidle
      exact (hidle rfl).elim
    · exact refl_of _ dog

theorem spares_disarm (dog : Watchdog) (hash : Word) : dog.Spares hash (dog.disarm hash).2 := by
  unfold disarm
  split
  · next h => exact spares_of_isWatching h _
  · exact refl_of _ dog

theorem spares_finish (dog : Watchdog) (receipt : Receipt) (tracer : Option Json) :
    dog.Spares receipt.txHash (dog.finish balanceOf receipt tracer).2 := by
  cases h : dog.sessionFor? receipt.txHash with
  | none =>
    rw [finish, h]
    exact refl_of _ dog
  | some session => exact spares_of_isWatching (isWatching_iff.2 ⟨_, sessionFor?_eq_some_iff.1 h⟩) _

/-! ### Taking notes -/

/-- Other sessions are spared, and the watchdog is armed as it was. -/
structure Attends (hash : Word) (dog dog' : Watchdog) : Prop where
  spares : dog.Spares hash dog'
  armed : dog'.armed? = dog.armed?

instance : IsPreorder Watchdog (Attends hash) where
  refl dog := ⟨refl_of _ dog, rfl⟩
  trans _ _ _ h h' := ⟨trans_of _ h.spares h'.spares, h'.armed.trans h.armed⟩

theorem attends_note (dog : Watchdog) {change : Session → Session}
    (h : ∀ s, (change s).txHash = s.txHash) : dog.Attends hash (dog.note hash change) where
  spares session hsession hne := by
    rw [note, hsession, Option.map_some, if_neg hne]
  armed := by
    rw [armed?, armed?, note, Option.map_map]
    congr 1
    funext s
    rw [Function.comp_apply]
    split
    · exact h s
    · rfl

theorem attends_recordStorage (dog : Watchdog) (hash location value : Word) :
    dog.Attends hash (dog.recordStorage hash location value) :=
  attends_note dog fun _ => rfl

theorem attends_writeTrace (dog : Watchdog) (hash : Word) (line : String) :
    dog.Attends hash (dog.writeTrace hash line) :=
  attends_note dog fun _ => rfl

theorem attends_flagThrow (dog : Watchdog) (hash : Word) :
    dog.Attends hash (dog.flagThrow hash) :=
  attends_note dog fun _ => rfl

/-- **What is asked about one transaction does not touch the session of another.** -/
theorem spares_perform (dog : Watchdog) (op : WatchOp) :
    dog.Spares op.hash (dog.perform balanceOf op).2 := by
  cases op with
  | watch tx => exact spares_watch dog tx
  | finish receipt tracer => exact spares_finish dog receipt tracer
  | disarm hash => exact spares_disarm dog hash
  | recordStorage hash location value =>
    exact (attends_recordStorage dog hash location value).spares
  | writeTrace hash line => exact (attends_writeTrace dog hash line).spares
  | flagThrow hash => exact (attends_flagThrow dog hash).spares

/-! ### Coming to rest -/

theorem isWatching_disarm (dog : Watchdog) (hash : Word) :
    (dog.disarm hash).2.isWatching hash = false := by
  unfold disarm
  split
  · rfl
  · next h => exact Bool.eq_false_iff.2 h

/-- **A finished session is over**, also if its balance could not be read. -/
theorem isWatching_finish (dog : Watchdog) (receipt : Receipt) (tracer : Option Json) :
    (dog.finish balanceOf receipt tracer).2.isWatching receipt.txHash = false := by
  unfold finish
  split
  · next h =>
    rw [Bool.eq_false_iff]
    intro hwatching
    obtain ⟨s, hs⟩ := isWatching_iff.1 hwatching
    rw [sessionFor?_eq_some_iff.2 hs] at h
    cases h
  · -- the session is dropped before the balance is read
    dsimp only
    split
    · rfl
    · split <;> rfl

/-- A watchdog that could not read a balance is as before. -/
theorem watch_eq_of_error {tx : Transaction} {fault : Unreadable}
    (h : (dog.watch balanceOf tx).1 = .error fault) : (dog.watch balanceOf tx).2 = dog := by
  unfold watch at h ⊢
  split
  · rfl
  next target htarget =>
    rw [htarget] at h
    cases hbalance : balanceOf target with
    | error fault => rfl
    | ok balance =>
      simp only [hbalance] at h
      split at h
      · cases h
      split at h <;> cases h

end Watchdog

/-! ### Pairs of watchdogs -/

namespace WatchPair

variable {pair : WatchPair} {hash : Word} {balanceOf : Address → Except Unreadable Word}

theorem get_set (pair : WatchPair) (kind kind' : WatchKind) (dog : Watchdog) :
    (pair.set kind dog).get kind' = if kind = kind' then dog else pair.get kind' := by
  cases kind <;> cases kind' <;> rfl

/-- An operation on one watchdog of a pair leaves the other one alone. -/
theorem get_perform (pair : WatchPair) (kind kind' : WatchKind) (op : WatchOp) :
    (pair.perform balanceOf kind op).2.get kind' =
      if kind = kind' then ((pair.get kind).perform balanceOf op).2 else pair.get kind' := by
  rw [← get_set]
  cases kind' <;> rfl

/-- A pair in which a watchdog could not be armed is as before. -/
theorem get_watch_of_error {pair : WatchPair} {kind : WatchKind} {tx : Transaction}
    {fault : Unreadable} (h : (pair.perform balanceOf kind (.watch tx)).1 = .error fault)
    (kind' : WatchKind) :
    (pair.perform balanceOf kind (.watch tx)).2.get kind' = pair.get kind' := by
  rw [get_perform]
  split
  · next hkind =>
    subst hkind
    exact Watchdog.watch_eq_of_error h
  · rfl

theorem spares_perform (pair : WatchPair) (kind kind' : WatchKind) (op : WatchOp) :
    (pair.get kind').Spares op.hash ((pair.perform balanceOf kind op).2.get kind') := by
  rw [get_perform]
  split
  · next h =>
    subst h
    exact Watchdog.spares_perform _ op
  · exact refl_of _ _

/-- **Telling watchdogs something** is attending to it, for each of the pair. -/
theorem attends_tell (pair : WatchPair) (kinds : List WatchKind) {change : Watchdog → Watchdog}
    (h : ∀ dog : Watchdog, dog.Attends hash (change dog)) (kind : WatchKind) :
    (pair.get kind).Attends hash ((pair.tell kinds change).get kind) := by
  induction kinds generalizing pair with
  | nil => exact refl_of _ _
  | cons kind' kinds ih =>
    refine trans_of _ ?_ (ih (pair.set kind' (change (pair.get kind'))))
    rw [get_set]
    split
    · next hkind =>
      subst hkind
      exact h _
    · exact refl_of _ _

end WatchPair

end CallWatch
