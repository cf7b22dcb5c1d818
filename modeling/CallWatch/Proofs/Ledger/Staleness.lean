import CallWatch.Proofs.Ledger.Journal
import Mathlib.Data.List.Induction
import Mathlib.Order.Lattice

/-!
# Stale marks

A mark is the length of the journal when it was taken, and nothing else.  It dies when the journal
is committed, or when the ledger goes back to an older mark (`Step.Kills`): what it marked is out
of reach from then on.  The ledger cannot tell a dead mark from a live one, though.  All that it
looks at is whether the journal is long enough, and a journal that shrank may grow again.

`perform_revert_of_kills` says what becomes of a dead mark.  It is refused for as long as the
journal is shorter than the mark.  Once the journal has grown back, it is accepted, and the ledger
goes to a place in the middle of the changes made since the mark died: never to what was marked,
and never further back than to where it died.  `perform_revert_of_few_steps` says how many steps a
dead mark is refused at least.
-/

namespace CallWatch.Ledger

/-- What the owner of a ledger can do to it. -/
inductive Step where
  | store (op : StoreOp)
  | commit
  /-- Puts an account in place without an undo entry. -/
  | seed (a : Address) (account : Account)

/-- The ledger after a step. -/
def step (l : Ledger) : Step → Ledger
  | .store op => (l.perform op).2
  | .commit => l.commit
  | .seed a account => l.seed a account

/-- The ledger after a list of steps. -/
def run (l : Ledger) (steps : List Step) : Ledger :=
  steps.foldl step l

/-- Whether a step ends the life of a mark. -/
def Step.Kills (mark : Nat) : Step → Prop
  | .commit => True
  | .store (.revert older) => older < mark
  | _ => False

/-- Whether the journal can take a step back, if it is one that changes the accounts. -/
def Step.IsJournaled : Step → Prop
  | .seed _ _ => False
  | _ => True

variable {l l' : Ledger} {mark : Nat}

@[simp]
theorem run_nil (l : Ledger) : l.run [] = l :=
  rfl

@[simp]
theorem run_concat (l : Ledger) (steps : List Step) (last : Step) :
    l.run (steps ++ [last]) = (l.run steps).step last :=
  List.foldl_append

/-! ### Going back -/

theorem revert_eq_error (h : l.snapshot < mark) :
    l.revert mark = .error (.unknownSnapshot mark) :=
  if_pos h

theorem revert_eq_ok (h : mark ≤ l.snapshot) : l.revert mark = .ok (l.undo (l.snapshot - mark)) :=
  if_neg (Nat.not_lt.mpr h)

theorem snapshot_undo (h : mark ≤ l.snapshot) :
    (l.undo (l.snapshot - mark)).snapshot = mark := by
  show (l.journal.drop _).length = mark
  rw [List.length_drop]
  exact Nat.sub_sub_self h

/-- What is undone could be done again. -/
theorem precedes_undo (l : Ledger) (count : Nat) : (l.undo count).Precedes l :=
  ⟨l.journal.take count, (List.take_append_drop count l.journal).symm, rfl⟩

/-! ### The length of the journal -/

theorem snapshot_write_le (l : Ledger) (a : Address) (undo : Account → Undo)
    (change : Account → Account) : (l.write a undo change).snapshot ≤ l.snapshot + 2 := by
  have htouch : (l.touch a).snapshot ≤ l.snapshot + 1 := by
    unfold touch
    split
    · exact Nat.le_succ _
    · exact Nat.le_refl _
  exact Nat.succ_le_succ htouch

/-- **No step adds more than two entries**: one for the change, one for an account that is created
on the way. -/
theorem snapshot_step_le (l : Ledger) (step : Step) : (l.step step).snapshot ≤ l.snapshot + 2 := by
  have hkept : l.snapshot ≤ l.snapshot + 2 := Nat.le_add_right _ _
  cases step with
  | commit => exact Nat.zero_le _
  | seed => exact hkept
  | store op =>
    cases op with
    | createAccount => exact Nat.succ_le_succ (Nat.le_succ _)
    | addBalance a amount =>
      exact addBalance_induction (motive := fun l' => l'.snapshot ≤ l.snapshot + 2) hkept
        fun _ => snapshot_write_le l a _ _
    | subBalance a amount =>
      exact subBalance_induction (motive := fun l' => l'.snapshot ≤ l.snapshot + 2) hkept
        fun _ => snapshot_write_le l a _ _
    | setNonce | setCode | setState => exact snapshot_write_le l _ _ _
    | revert older =>
      refine settle_induction (motive := fun l' => l'.snapshot ≤ l.snapshot + 2) hkept
        fun l' hok => ?_
      by_cases h : older ≤ l.snapshot
      · rw [revert_eq_ok h] at hok
        obtain rfl := Except.ok.inj hok
        rw [snapshot_undo h]
        exact h.trans hkept
      · rw [revert_eq_error (Nat.lt_of_not_le h)] at hok
        cases hok
    | exist | getBalance | getNonce | getCode | getCodeHash | getState | snapshot => exact hkept

theorem snapshot_run_le (l : Ledger) (steps : List Step) :
    (l.run steps).snapshot ≤ l.snapshot + 2 * steps.length := by
  induction steps using List.reverseRecOn with
  | nil => exact Nat.le_refl _
  | append_singleton steps last ih =>
    rw [run_concat, List.length_append, List.length_singleton]
    have hlast := snapshot_step_le (l.run steps) last
    omega

/-- A step that kills a mark leaves a journal that is not longer than the mark. -/
theorem snapshot_le_of_kills {kill : Step} (h : kill.Kills mark) :
    (l.step kill).snapshot ≤ mark := by
  cases kill with
  | commit => exact Nat.zero_le _
  | seed => exact h.elim
  | store op =>
    cases op with
    | revert older =>
      have holder : older < mark := h
      show (l.settle (l.revert older)).2.snapshot ≤ mark
      by_cases hle : older ≤ l.snapshot
      · rw [revert_eq_ok hle]
        show (l.undo _).snapshot ≤ mark
        rw [snapshot_undo hle]
        exact holder.le
      · -- the older mark was dead as well, and the journal too short for both
        rw [revert_eq_error (Nat.lt_of_not_le hle)]
        show l.snapshot ≤ mark
        omega
    | _ => exact h.elim

/-! ### The last moment at which the journal was short -/

/-- A step either leads forward from an earlier ledger, or leaves a journal that is shorter. -/
theorem Precedes.step (h : l.Precedes l') {step : Step} (hstep : step.IsJournaled) :
    l.Precedes (l'.step step) ∨ (l'.step step).snapshot ≤ l.snapshot := by
  cases step with
  | seed => exact hstep.elim
  | commit => exact .inr (Nat.zero_le _)
  | store op =>
    by_cases hop : ∀ older, op = .revert older → l.snapshot ≤ older
    · exact .inl (h.perform hop)
    · push Not at hop
      obtain ⟨older, rfl, hlt⟩ := hop
      have hkills : (Step.store (.revert older)).Kills l.snapshot := hlt
      exact .inr (snapshot_le_of_kills hkills)

/-- Whatever was done to a ledger with a short journal, what is there now came, by changes that can
be taken back, from some moment at which the journal was short. -/
theorem exists_short_moment (hl : l.snapshot ≤ mark) (steps : List Step)
    (hsteps : ∀ step ∈ steps, step.IsJournaled) :
    ∃ early late, steps = early ++ late ∧ (l.run early).snapshot ≤ mark ∧
      (l.run early).Precedes (l.run steps) := by
  induction steps using List.reverseRecOn with
  | nil => exact ⟨[], [], rfl, hl, .refl l⟩
  | append_singleton steps last ih =>
    obtain ⟨early, late, heq, hshort, hprecedes⟩ :=
      ih fun step h => hsteps step (List.mem_append_left _ h)
    have hlast := hsteps last (List.mem_append_right _ (List.mem_singleton_self last))
    rw [run_concat]
    rcases hprecedes.step hlast with h | h
    · exact ⟨early, late ++ [last], by rw [heq, List.append_assoc], hshort, h⟩
    · -- the journal shrank again, so this is a later moment
      refine ⟨steps ++ [last], [], (List.append_nil _).symm, ?_, ?_⟩
      · rw [run_concat]
        exact h.trans hshort
      · rw [run_concat]
        exact .refl _

/-! ### What becomes of a dead mark -/

/-- **A dead mark is refused exactly as long as the journal is shorter than it.**  Let a mark be
taken, let anything happen until it is killed, and anything after that.  While the journal is
shorter than the mark, going back to it is refused and changes nothing.  Otherwise the mark is
accepted, and the ledger goes to where the journal had that length last: that lies between the
present and some moment `early` since the mark was killed, unless accounts were put in place
without an undo entry. -/
theorem perform_revert_of_kills (taken : Ledger) (before after : List Step) {kill : Step}
    (hkill : kill.Kills taken.snapshot) :
    let killed := (taken.run before).step kill
    let l := killed.run after
    (l.snapshot < taken.snapshot →
      l.perform (.revert taken.snapshot) = (.error (.unknownSnapshot taken.snapshot), l)) ∧
    (taken.snapshot ≤ l.snapshot →
      ∃ back, l.perform (.revert taken.snapshot) = (.ok (), back) ∧
        back.snapshot = taken.snapshot ∧
        ((∀ step ∈ after, step.IsJournaled) →
          ∃ early late, after = early ++ late ∧
            (killed.run early).Precedes back ∧ back.Precedes l)) := by
  intro killed l
  constructor
  · intro hshort
    show l.settle (l.revert _) = _
    rw [revert_eq_error hshort]
    rfl
  · intro hlong
    have hok := revert_eq_ok hlong
    refine ⟨l.undo (l.snapshot - taken.snapshot), ?_, snapshot_undo hlong, fun hafter => ?_⟩
    · show l.settle (l.revert _) = _
      rw [hok]
      rfl
    · obtain ⟨early, late, heq, hshort, hprecedes⟩ :=
        exists_short_moment (l := killed) (snapshot_le_of_kills hkill) after hafter
      exact ⟨early, late, heq, hprecedes.revert hshort hok, precedes_undo l _⟩

/-- A mark at 2 that is killed by going back to 0 and accepted again after two changes: the ledger
goes to a nonce of 7, which no mark was taken of, and not to the nonce of 5 that was marked. -/
theorem perform_revert_of_kills_regrown :
    let taken := Ledger.run {} [.store (.setNonce 1 5)]
    let kill : Step := .store (.revert 0)
    let after : List Step := [.store (.setNonce 1 7), .store (.setNonce 1 8)]
    let l := (taken.step kill).run after
    kill.Kills taken.snapshot ∧ (taken.accounts.get 1).nonce = 5 ∧
      ∃ back, l.perform (.revert taken.snapshot) = (.ok (), back) ∧
        (back.accounts.get 1).nonce = 7 := by
  intro taken kill after l
  have hkill : kill.Kills taken.snapshot := by
    show 0 < taken.snapshot
    decide +kernel
  have hlong : taken.snapshot ≤ l.snapshot := by decide +kernel
  obtain ⟨back, hback, -, -⟩ := (perform_revert_of_kills taken [] after hkill).2 hlong
  have heq : (l.perform (.revert taken.snapshot)).2 = back := congrArg Prod.snd hback
  refine ⟨hkill, by decide +kernel, back, hback, ?_⟩
  rw [← heq]
  decide +kernel

/-- **A dead mark is refused for some time**: at least for as many steps as are too few for the
journal to grow back to it. -/
theorem perform_revert_of_few_steps (taken : Ledger) (before after : List Step) (kill : Step)
    (hfew : ((taken.run before).step kill).snapshot + 2 * after.length < taken.snapshot) :
    let l := ((taken.run before).step kill).run after
    l.perform (.revert taken.snapshot) = (.error (.unknownSnapshot taken.snapshot), l) := by
  intro l
  have hshort : l.snapshot < taken.snapshot := (snapshot_run_le _ after).trans_lt hfew
  show l.settle (l.revert _) = _
  rw [revert_eq_error hshort]
  rfl

end CallWatch.Ledger
