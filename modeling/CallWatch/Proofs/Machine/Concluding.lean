import CallWatch.Proofs.Machine.Gas
import CallWatch.Proofs.Machine.Rollback

/-!
# How a creation ends

On a store without faults, a creation whose frame did not stop the machine ends in one of four ways
(`Host.concludeCreation_cases`), unless it cannot go back to its mark.  Its code is stored; or it is
too large, and everything is undone although the outcome is a success; or it fails and everything is
undone; or, before the Homestead fork, it fails for want of gas for its code and keeps everything
else.

So what is settled is either taken back to its mark, or left as the frame left it, or left with code
stored at the account of a creation (`Host.ledger_settle_cases`).
-/

namespace CallWatch

open Run

namespace Host

section

variable {φ : Type} [FaultModel φ] {host : Host}

/-- The outcome of a creation that got to its frame names the account of the frame. -/
theorem created_of_settle {p : Primitive} (hp : p.IsCreation) (mark : Nat) (frame : Frame)
    (ended : FrameEnd) :
    Yields (φ := φ) (fun outcome => outcome.created = some frame.account)
      (host.settle p mark frame ended) := by
  have hclose (failure? : Option Failure) (gasLeft : UInt64) :
      Yields (φ := φ) (fun outcome => outcome.created = some frame.account)
        (host.closeCreation frame ended failure? gasLeft) := by
    refine .bind fun _ => ?_
    dsimp only
    split
    · exact .bind fun _ => .pure rfl
    · exact .pure rfl
  have hconclude : Yields (φ := φ) (fun outcome => outcome.created = some frame.account)
      (host.concludeCreation mark frame ended) := by
    refine .bind fun ⟨failure?, left⟩ => ?_
    dsimp only
    split
    · exact .bind fun _ => hclose failure? 0
    · exact hclose failure? left
  cases p with
  | call | callCode | delegateCall => exact hp.elim
  | create caller code gas value =>
    show Yields _ (host.settleCreation mark frame ended)
    unfold settleCreation
    cases ended.result with
    | ok code => exact hconclude
    | error failure =>
      dsimp only
      split
      · exact .bind fun _ => .fail failure
      · exact hconclude

end

variable {host : Host} {l : Ledger} {m m' : Machine NoFaults}

/-! ### Storing -/

/-- The output of a frame is refused with a failure, or it is too large to be stored, or it is
stored. -/
theorem depositCode_eq (mark : Nat) (a : Address) (ended : FrameEnd) (m : Machine NoFaults) :
    (∃ failure, depositCode mark a ended m = (.ok (some failure, ended.gasLeft), m)) ∨
      maxCodeSize < ended.output.length ∧
        depositCode mark a ended m = (.ok (none, ended.gasLeft), m) ∨
      ∃ code left, ended.result = .ok code ∧ code.length ≤ maxCodeSize ∧
        depositCode mark a ended m =
          (.ok (none, left), { m with store := {
            m.store with ledger := m.store.ledger.setCode a code } }) := by
  unfold depositCode FrameEnd.output
  cases hended : ended.result with
  | error failure => exact .inl ⟨failure, rfl⟩
  | ok code =>
    dsimp only
    by_cases hlarge : maxCodeSize < code.length
    · simp only [if_pos hlarge]
      exact .inr (.inl ⟨hlarge, rfl⟩)
    simp only [if_neg hlarge]
    cases Checked.sub ended.gasLeft (Checked.saturate (codeBytePrice * code.length)) with
    | none => exact .inl ⟨.codeStoreOutOfGas, rfl⟩
    | some left => exact .inr (.inr ⟨code, left, rfl, Nat.le_of_not_lt hlarge, rfl⟩)

/-! ### Concluding -/

/-- Going back to a mark works as it does in the ledger. -/
theorem revert_cases (mark : Nat) (m : Machine NoFaults) :
    (∃ fault m', m.store.ledger.revert mark = .error fault ∧
        store (.revert mark) m = (.error (.failed (.store fault)), m')) ∨
      ∃ l, m.store.ledger.revert mark = .ok l ∧ store (.revert mark) m = (.ok (), m.backTo l) := by
  rw [store_apply]
  unfold Store.perform
  simp only [StoreOp.method, FaultModel.next, Ledger.perform]
  cases m.store.ledger.revert mark with
  | error fault => exact .inl ⟨fault, _, rfl, rfl⟩
  | ok l => exact .inr ⟨l, rfl, rfl⟩

/-- The outcome of a creation and the ledger it leaves, given the machine on which its frame
ended. -/
inductive Concludes (host : Host) (mark : Nat) (frame : Frame) (ended : FrameEnd)
    (m : Machine NoFaults) (outcome : Outcome) : Ledger → Prop
  /-- The code was stored. -/
  | stored (hended : ended.result = .ok outcome.output)
      (hsize : outcome.output.length ≤ maxCodeSize) (hresult : outcome.result = .success) :
      Concludes host mark frame ended m outcome
        (m.store.ledger.setCode frame.account outcome.output)
  /-- The code was too large, which is no failure. -/
  | oversized {l : Ledger} (hback : m.store.ledger.revert mark = .ok l)
      (hsize : maxCodeSize < ended.output.length) (hresult : outcome.result = .success)
      (houtput : outcome.output = []) : Concludes host mark frame ended m outcome l
  /-- There was a failure, and it counts. -/
  | undone {l : Ledger} {failure : Failure} (hback : m.store.ledger.revert mark = .ok l)
      (hresult : outcome.result = .reverted failure) : Concludes host mark frame ended m outcome l
  /-- There was not enough gas for the code, and that does not undo the creation. -/
  | unpaid (hresult : outcome.result = .reverted .codeStoreOutOfGas)
      (hfork : host.rules.isHomestead = false) :
      Concludes host mark frame ended m outcome m.store.ledger

/-- **A creation concludes in one of these ways**, unless it cannot go back to its mark. -/
theorem concludeCreation_cases (mark : Nat) (frame : Frame) (ended : FrameEnd)
    (m : Machine NoFaults) :
    (∃ fault m', m.store.ledger.revert mark = .error fault ∧
        host.concludeCreation mark frame ended m = (.error (.failed (.store fault)), m')) ∨
      ∃ outcome m', host.concludeCreation mark frame ended m = (.ok outcome, m') ∧
        host.Concludes mark frame ended m outcome m'.store.ledger := by
  rcases depositCode_eq mark frame.account ended m with
    ⟨failure, hdeposit⟩ | ⟨hsize, hdeposit⟩ | ⟨code, left, hcode, hsize, hdeposit⟩
  all_goals rw [concludeCreation, bind_of_ok hdeposit]; dsimp only
  · by_cases hundone : host.undoesCreation ended.output (some failure) = true
    · rw [if_pos hundone]
      rcases revert_cases mark m with ⟨fault, m', hfault, hback⟩ | ⟨l, hl, hback⟩
      · exact .inl ⟨fault, m', hfault, by rw [bind_apply, hback]⟩
      obtain ⟨m', hclose, hm', -⟩ := host.closeCreation_eq frame ended (some failure) 0 (m.backTo l)
      refine .inr ⟨_, m', by rw [bind_of_ok hback, hclose], ?_⟩
      rw [hm']
      exact .undone hl rfl
    · obtain ⟨m', hclose, hm', -⟩ :=
        host.closeCreation_eq frame ended (some failure) ended.gasLeft m
      rw [if_neg hundone]
      refine .inr ⟨_, m', hclose, ?_⟩
      rw [hm']
      obtain ⟨rfl, hfork⟩ := host.of_undoesCreation_eq_false (Bool.eq_false_iff.2 hundone)
      exact .unpaid rfl hfork
  · have hundone : host.undoesCreation ended.output none = true := by
      simp [undoesCreation, hsize]
    rw [if_pos hundone]
    rcases revert_cases mark m with ⟨fault, m', hfault, hback⟩ | ⟨l, hl, hback⟩
    · exact .inl ⟨fault, m', hfault, by rw [bind_apply, hback]⟩
    obtain ⟨m', hclose, hm', -⟩ := host.closeCreation_eq frame ended none 0 (m.backTo l)
    refine .inr ⟨_, m', by rw [bind_of_ok hback, hclose], ?_⟩
    rw [hm']
    exact .oversized hl hsize rfl (if_pos (by simp [hsize]))
  · have houtput : ended.output = code := by rw [FrameEnd.output, hcode]
    have hstands : ¬host.undoesCreation ended.output none = true := by
      simp [undoesCreation, houtput, hsize]
    obtain ⟨m', hclose, hm', -⟩ := host.closeCreation_eq frame ended none left { m with store := {
      m.store with ledger := m.store.ledger.setCode frame.account code } }
    rw [houtput, if_neg (by simp [hsize])] at hclose
    rw [if_neg hstands]
    refine .inr ⟨_, m', hclose, ?_⟩
    rw [hm']
    exact .stored hcode hsize rfl

/-- So it never fails itself if the mark can be gone back to. -/
theorem exists_concludeCreation (hl : l.Precedes m.store.ledger) (frame : Frame)
    (ended : FrameEnd) :
    ∃ outcome m', host.concludeCreation l.snapshot frame ended m = (.ok outcome, m') ∧
      host.Concludes l.snapshot frame ended m outcome m'.store.ledger := by
  refine (host.concludeCreation_cases l.snapshot frame ended m).resolve_left ?_
  rintro ⟨fault, m', hfault, -⟩
  rw [hl.revert_eq] at hfault
  cases hfault

/-- A creation is concluded unless its frame stopped the machine. -/
theorem settle_create (host : Host) (caller : Address) (code : Bytes) (gas : UInt64) (value : Word)
    (mark : Nat) (frame : Frame) {ended : FrameEnd}
    (h : ∀ failure, ended.result = .error failure → ¬failure.propagates = true) :
    host.settle (φ := NoFaults) (.create caller code gas value) mark frame ended =
      host.concludeCreation mark frame ended := by
  simp only [settle, settleCreation]
  cases hended : ended.result with
  | ok output => rfl
  | error failure => simp only [if_neg (h failure hended)]

/-- A primitive whose frame stopped the machine goes back to its mark and fails. -/
theorem settle_of_propagates {φ : Type} [FaultModel φ] (host : Host) (p : Primitive) (mark : Nat)
    (frame : Frame) {ended : FrameEnd} {failure : Failure} (hended : ended.result = .error failure)
    (hpropagates : failure.propagates = true) :
    host.settle (φ := φ) p mark frame ended = (do rollBack mark frame failure; .fail failure) := by
  cases p <;> simp only [settle, settleCall, settleCreation, hended, if_pos hpropagates]

/-- A creation with an outcome came to its conclusion. -/
theorem concludes_settle {p : Primitive} (hp : p.IsCreation) {mark : Nat} {frame : Frame}
    {ended : FrameEnd} {outcome : Outcome}
    (h : host.settle p mark frame ended m = (.ok outcome, m')) :
    host.Concludes mark frame ended m outcome m'.store.ledger := by
  cases p with
  | call | callCode | delegateCall => exact hp.elim
  | create caller code gas value =>
    have hstops (failure : Failure) (hended : ended.result = .error failure) :
        ¬failure.propagates = true := by
      intro hpropagates
      rw [host.settle_of_propagates _ mark frame hended hpropagates,
        bind_eq_ok_iff] at h
      obtain ⟨_, _, _, h⟩ := h
      cases h
    rw [settle_create host caller code gas value mark frame hstops] at h
    rcases host.concludeCreation_cases mark frame ended m with
      ⟨fault, m₁, -, hconclude⟩ | ⟨outcome', m₁, hconclude, hends⟩
    all_goals
      rw [hconclude] at h
      cases h
    exact hends

/-- **Settling goes back to the mark, or changes nothing, or stores the code of a creation.** -/
theorem ledger_settle_cases (hl : l.Precedes m.store.ledger) (p : Primitive) (frame : Frame)
    (ended : FrameEnd) :
    (host.settle p l.snapshot frame ended m).2.store.ledger = l ∨
      (host.settle p l.snapshot frame ended m).2.store.ledger = m.store.ledger ∨
      p.IsCreation ∧ ∃ code, (host.settle p l.snapshot frame ended m).2.store.ledger =
        m.store.ledger.setCode frame.account code := by
  cases p with
  | call | callCode | delegateCall =>
    cases hended : ended.result with
    | ok output =>
      simp only [settle, settleCall, hended]
      exact .inr (.inl rfl)
    | error failure =>
      exact .inl (ledger_settleCall FaultModel.noFaults_sparesReverts hl frame hended)
  | create caller code gas value =>
    by_cases hstops : ∃ failure, ended.result = .error failure ∧ failure.propagates = true
    · obtain ⟨failure, hended, hpropagates⟩ := hstops
      rw [host.settle_of_propagates _ _ frame hended hpropagates,
        bind_of_ok (rollBack_eq FaultModel.noFaults_sparesReverts hl frame failure)]
      exact .inl rfl
    · obtain ⟨outcome, m', hconclude, hends⟩ := host.exists_concludeCreation hl frame ended
      rw [settle_create host caller code gas value l.snapshot frame fun failure hended h =>
        hstops ⟨failure, hended, h⟩, hconclude]
      have hmark : m.store.ledger.revert l.snapshot = .ok l := hl.revert_eq
      dsimp only
      generalize m'.store.ledger = l' at hends ⊢
      cases hends with
      | stored => exact .inr (.inr ⟨trivial, _, rfl⟩)
      | oversized hback | undone hback =>
        rw [hmark] at hback
        exact .inl (Except.ok.inj hback).symm
      | unpaid => exact .inr (.inl rfl)

end Host

end CallWatch
