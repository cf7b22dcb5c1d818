import CallWatch.Proofs.Machine.Rollback

/-!
# Primitives without a frame

A primitive that does not fail goes without a frame in two cases only (`Host.over_of_setUp_iff`): it
was refused, because one of its preconditions does not hold (`Host.Refuses`), or it is a call that
has nothing to do, as its target is not there and may not be created for it (`Host.IsIdle`).
-/

namespace CallWatch

open Run

namespace Host

variable {φ : Type} [FaultModel φ] {host : Host} {m m' : Machine φ}

/-- A precondition of the primitive does not hold: it is nested where nothing may be, it is too
deep, or it is worth more than its payer has. -/
def Refuses (host : Host) (p : Primitive) (m : Machine φ) : Prop :=
  (host.config.noRecursion ∧ 0 < m.depth) ∨ host.config.maxCallDepth < m.depth ∨
    ∃ value, p.value? = some value ∧
      (m.store.follow (host.env.canTransfer p.payer value)).1 = .ok false

omit [FaultModel φ] in
/-- The primitive is a call without value of an account that is not there, where the state-clearing
fork forbids to create it. -/
def IsIdle (host : Host) (p : Primitive) (m : Machine φ) : Prop :=
  ∃ caller target input gas, p = .call caller target input gas 0 ∧
    target ∉ m.store.ledger.accounts ∧ host.precompiles.contains target = false ∧
      host.rules.isEip158 = true

theorem refuses_iff {p : Primitive} {outcome? : Option Outcome}
    (h : host.refusal? p.payer p.gas p.value? m = (.ok outcome?, m')) :
    host.Refuses p m ↔ outcome?.isSome = true := by
  unfold refusal? at h
  rw [bind_of_ok (get_apply m)] at h
  by_cases hnested : host.config.noRecursion = true ∧ 0 < m.depth
  · rw [if_pos hnested] at h
    cases h
    exact iff_of_true (.inl hnested) rfl
  rw [if_neg hnested] at h
  by_cases hdeep : host.config.maxCallDepth < m.depth
  · rw [if_pos hdeep] at h
    cases h
    exact iff_of_true (.inr (.inl hdeep)) rfl
  rw [if_neg hdeep] at h
  rw [Refuses, or_iff_right hnested, or_iff_right hdeep]
  cases hvalue : p.value? with
  | none =>
    rw [hvalue] at h
    cases h
    simp
  | some value =>
    rw [hvalue] at h
    obtain ⟨covered, m₁, hcovers, h⟩ := bind_eq_ok_iff.1 h
    rw [perform_apply, Prod.mk.injEq, ofStore_eq_ok_iff] at hcovers
    cases covered with
    | true =>
      cases h
      simp [hcovers.1]
    | false =>
      cases h
      simp [hcovers.1]

/-- A target is left missing exactly where it is missing and may not be created. -/
theorem ensureTarget_eq_false_iff {target : Address} {value : Word} {isThere : Bool}
    (h : host.ensureTarget target value m = (.ok isThere, m')) :
    isThere = false ↔ target ∉ m.store.ledger.accounts ∧
      host.precompiles.contains target = false ∧ host.rules.isEip158 = true ∧ value = 0 := by
  rw [ensureTarget, bind_eq_ok_iff] at h
  obtain ⟨found, m₁, hexist, h⟩ := h
  rw [store_apply, Prod.mk.injEq, ofStore_eq_ok_iff] at hexist
  have hfound : found = m.store.ledger.accounts.contains target :=
    (Except.ok.inj (Store.perform_of_ok hexist.1).1).symm
  by_cases hin : target ∈ m.store.ledger.accounts
  · -- the target is there
    rw [hfound, Std.ExtTreeMap.mem_iff_contains.1 hin] at h
    cases h
    exact iff_of_false (by simp) fun hno => hno.1 hin
  rw [hfound, Bool.eq_false_iff.2 fun hc => hin (Std.ExtTreeMap.mem_iff_contains.2 hc)] at h
  rw [if_neg Bool.false_ne_true] at h
  by_cases hforbidden :
      (!host.precompiles.contains target && host.rules.isEip158 && value == 0) = true
  · rw [if_pos hforbidden] at h
    cases h
    simpa [hin, and_assoc] using hforbidden
  · rw [if_neg hforbidden, bind_eq_ok_iff] at h
    obtain ⟨_, _, _, h⟩ := h
    cases h
    simpa [hin, and_assoc] using hforbidden

/-- **The only frames that are not set up without a failure are those of idle calls.** -/
theorem isIdle_iff {account : Address} {p : Primitive} {frame? : Option Frame}
    (h : host.enterFrame account p m = (.ok frame?, m')) :
    host.IsIdle p m ↔ frame? = none := by
  cases p with
  | call caller target input gas value =>
    rw [enterFrame, bind_eq_ok_iff] at h
    obtain ⟨isThere, m₁, hensure, h⟩ := h
    have hmissing := ensureTarget_eq_false_iff hensure
    cases isThere with
    | false =>
      cases h
      obtain ⟨hin, hprecompile, hfork, rfl⟩ := hmissing.1 rfl
      exact iff_of_true ⟨_, _, _, _, rfl, hin, hprecompile, hfork⟩ rfl
    | true =>
      simp only [if_true, bind_eq_ok_iff] at h
      obtain ⟨_, _, _, _, _, _, _, _, _, h⟩ := h
      cases h
      refine iff_of_false (fun hidle => ?_) (by simp)
      obtain ⟨_, _, _, _, hp, hin, hprecompile, hfork⟩ := hidle
      cases hp
      cases hmissing.2 ⟨hin, hprecompile, hfork, rfl⟩
  | callCode | delegateCall =>
    simp only [enterFrame, bind_eq_ok_iff] at h
    obtain ⟨_, _, _, _, _, _, h⟩ := h
    cases h
    exact iff_of_false (by simp [IsIdle]) (by simp)
  | create caller code gas value =>
    refine iff_of_false (by simp [IsIdle]) ?_
    rintro rfl
    rw [enterFrame, bind_eq_ok_iff] at h
    obtain ⟨_, _, _, h⟩ := h
    split at h <;> simp only [bind_eq_ok_iff] at h
    · obtain ⟨_, _, _, _, _, _, _, _, _, h⟩ := h
      cases h
    · obtain ⟨_, _, _, _, _, _, h⟩ := h
      cases h

end Host

end CallWatch
