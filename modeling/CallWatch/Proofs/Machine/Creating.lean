import CallWatch.Proofs.Machine.Deployment
import CallWatch.Proofs.Machine.Standing

/-!
# What becomes of a creation

Once the frame of a creation has ended, three things decide what becomes of it: how the frame
ended, how long its output is, and whether the Homestead fork is active.  `Host.create_policy` goes
through all cases.  A creation stands if its code is paid for, or if it is not and the fork is not
active (`Host.CreationStands`); it is undone otherwise (`Host.CreationUndone`).

That a creation is not paid for is told by the failure alone, `Failure.codeStoreOutOfGas`.  So a
program that fails in just that way by itself is treated like one whose output is too dear
(`FrameEnd.IsUnpaid`).

To be undone means to go back to the ledger from right after the nonce of the caller was raised.
That a creation does go back there takes an interpreter whose programs do not go back in the store
by themselves; what stands, stands under every interpreter.
-/

namespace CallWatch

open Run

/-- The computation ends in this way and leaves this ledger. -/
def Run.Ends {φ α : Type} (x : Run φ α) (m : Machine φ) (ended : Except Stop α) (l : Ledger) :
    Prop :=
  (x m).1 = ended ∧ (x m).2.store.ledger = l

/-- The frame of a creation left less gas than its output costs, or failed as if it had. -/
inductive FrameEnd.IsUnpaid (ended : FrameEnd) : Prop
  | short {output : Bytes} (hended : ended.result = .ok output)
      (hsize : output.length ≤ maxCodeSize)
      (hshort : ended.gasLeft.toNat < codeBytePrice * output.length) : IsUnpaid ended
  | said (hended : ended.result = .error .codeStoreOutOfGas) : IsUnpaid ended

/-- Such a frame has no output that is too large. -/
theorem FrameEnd.IsUnpaid.length_le {ended : FrameEnd} (h : ended.IsUnpaid) :
    ended.output.length ≤ maxCodeSize := by
  unfold FrameEnd.output
  cases h with
  | short hended hsize => rwa [hended]
  | said hended =>
    rw [hended]
    exact Nat.zero_le _

/-- Nor does the failure of such a frame stop the creation. -/
theorem FrameEnd.IsUnpaid.goesOn {ended : FrameEnd} (h : ended.IsUnpaid) (failure : Failure)
    (hended : ended.result = .error failure) : failure.propagates = false := by
  cases h with
  | short hended' =>
    rw [hended'] at hended
    cases hended
  | said hended' =>
    rw [hended'] at hended
    cases hended
    rfl

/-- A creation takes the account of the next contract of its caller. -/
theorem Primitive.Takes.eq_nextContract {caller account : Address} {code : Bytes} {gas : UInt64}
    {value : Word} {l l' : Ledger}
    (h : (Primitive.create caller code gas value).Takes l account l') :
    account = l.nextContract caller := by
  cases h
  rfl

namespace Host

/-- When a creation stands, on a new account, given how its frame ended and the ledger that the
frame left. -/
structure CreationStands (host : Host) (account : Address) (ended : FrameEnd) (after : Ledger)
    (ends : Except Stop Outcome → Ledger → Prop) : Prop where
  /-- The output is stored as the code of the account, and its price is taken from the gas. -/
  paid : ∀ output, ended.result = .ok output → output.length ≤ maxCodeSize →
    codeBytePrice * output.length ≤ ended.gasLeft.toNat →
      ∃ left : UInt64, left.toNat = ended.gasLeft.toNat - codeBytePrice * output.length ∧
        ends (.ok { result := .success, gasLeft := left, output, created := some account })
          (after.setCode account output) ∧
        (after.setCode account output).codeAt account = output
  /-- Before the fork, a creation that is not paid for keeps its changes and its gas. -/
  unpaid : host.rules.isHomestead = false → ended.IsUnpaid →
    ends (.ok { result := .reverted .codeStoreOutOfGas, gasLeft := ended.gasLeft,
                created := some account }) after

/-- When a creation is undone, given how its frame ended and the ledger from before the frame. -/
structure CreationUndone (host : Host) (account : Address) (ended : FrameEnd) (start : Ledger)
    (ends : Except Stop Outcome → Ledger → Prop) : Prop where
  unpaid : host.rules.isHomestead = true → ended.IsUnpaid →
    ends (.ok { result := .reverted .codeStoreOutOfGas, gasLeft := 0, created := some account })
      start
  /-- Output that is too large counts as a success. -/
  oversized : ∀ output, ended.result = .ok output → maxCodeSize < output.length →
    ends (.ok { result := .success, gasLeft := 0, created := some account }) start
  failed : ∀ failure, ended.result = .error failure → failure.propagates = false →
    failure ≠ .codeStoreOutOfGas →
      ends (.ok { result := .reverted failure, gasLeft := 0, created := some account }) start
  /-- A failure of the store or of the machine itself stops the creation as well. -/
  stopped : ∀ failure, ended.result = .error failure → failure.propagates = true →
    ends (.error (.failed failure)) start

variable {host : Host} {m : Machine NoFaults} {mark : Nat} {frame : Frame} {ended : FrameEnd}

/-! ### Paying for the code -/

theorem toNat_price {output : Bytes} (hsize : output.length ≤ maxCodeSize) :
    (Checked.saturate (codeBytePrice * output.length)).toNat = codeBytePrice * output.length := by
  have hsize' : output.length ≤ 24576 := hsize
  have hrange : codeBytePrice * output.length < Nat.pow 2 64 := by
    rw [codeBytePrice, Nat.pow_eq]
    omega
  exact Checked.toNat_saturate hrange

theorem depositCode_of_paid {output : Bytes} {left : UInt64} (a : Address)
    (hended : ended.result = .ok output) (hsize : output.length ≤ maxCodeSize)
    (hpaid : left.toNat + codeBytePrice * output.length = ended.gasLeft.toNat) :
    depositCode mark a ended m =
      (.ok (none, left), { m with store := {
        m.store with ledger := m.store.ledger.setCode a output } }) := by
  have hleft : Checked.sub ended.gasLeft (Checked.saturate (codeBytePrice * output.length)) =
      some left := by
    rw [Checked.sub_eq_some_iff, toNat_price hsize, hpaid]
  simp only [depositCode, hended, if_neg (Nat.not_lt.mpr hsize), hleft]
  rfl

theorem depositCode_of_short {output : Bytes} (a : Address) (hended : ended.result = .ok output)
    (hsize : output.length ≤ maxCodeSize)
    (hshort : ended.gasLeft.toNat < codeBytePrice * output.length) :
    depositCode mark a ended m = (.ok (some .codeStoreOutOfGas, ended.gasLeft), m) := by
  have hnone : Checked.sub ended.gasLeft (Checked.saturate (codeBytePrice * output.length)) =
      none := by
    rwa [Checked.sub_eq_none_iff, UInt64.lt_iff_toNat_lt, toNat_price hsize]
  simp only [depositCode, hended, if_neg (Nat.not_lt.mpr hsize), hnone]
  rfl

theorem depositCode_of_oversized {output : Bytes} (a : Address) (hended : ended.result = .ok output)
    (hsize : maxCodeSize < output.length) :
    depositCode mark a ended m = (.ok (none, ended.gasLeft), m) := by
  simp only [depositCode, hended, if_pos hsize]
  rfl

theorem depositCode_of_error {failure : Failure} (a : Address)
    (hended : ended.result = .error failure) :
    depositCode mark a ended m = (.ok (some failure, ended.gasLeft), m) := by
  simp only [depositCode, hended]
  rfl

/-- However it comes that a creation is not paid for, from here on it is the same failure. -/
theorem depositCode_of_isUnpaid (a : Address) (h : ended.IsUnpaid) :
    depositCode mark a ended m = (.ok (some .codeStoreOutOfGas, ended.gasLeft), m) := by
  cases h with
  | short hended hsize hshort => exact depositCode_of_short a hended hsize hshort
  | said hended => exact depositCode_of_error a hended

/-! ### Standing and going back -/

/-- What a creation hands back whose frame ended. -/
def creationOutcome (frame : Frame) (ended : FrameEnd) (failure? : Option Failure)
    (gasLeft : UInt64) : Outcome where
  result := failure?.elim .success .reverted
  gasLeft
  output :=
    if failure?.isSome || decide (maxCodeSize < ended.output.length) then [] else ended.output
  created := some frame.account

theorem concludeCreation_of_stands {failure? : Option Failure} {left : UInt64}
    {m₁ : Machine NoFaults}
    (hdeposit : depositCode mark frame.account ended m = (.ok (failure?, left), m₁))
    (hstands : host.undoesCreation ended.output failure? = false) :
    (host.concludeCreation mark frame ended).Ends m
      (.ok (creationOutcome frame ended failure? left)) m₁.store.ledger := by
  obtain ⟨m', hclose, hm', -⟩ := host.closeCreation_eq frame ended failure? left m₁
  rw [Run.Ends, concludeCreation, bind_of_ok hdeposit]
  dsimp only
  rw [hstands, if_neg Bool.false_ne_true, hclose]
  exact ⟨rfl, congrArg Store.ledger hm'⟩

theorem concludeCreation_of_undone {failure? : Option Failure} {left : UInt64}
    {m₁ : Machine NoFaults} {l : Ledger}
    (hdeposit : depositCode l.snapshot frame.account ended m = (.ok (failure?, left), m₁))
    (hundone : host.undoesCreation ended.output failure? = true)
    (hl : l.Precedes m₁.store.ledger) :
    (host.concludeCreation l.snapshot frame ended).Ends m
      (.ok (creationOutcome frame ended failure? 0)) l := by
  have hback := revert_apply FaultModel.noFaults_sparesReverts hl
  obtain ⟨m', hclose, hm', -⟩ := host.closeCreation_eq frame ended failure? 0 (m₁.backTo l)
  rw [Run.Ends, concludeCreation, bind_of_ok hdeposit]
  dsimp only
  rw [hundone, if_pos rfl, bind_of_ok hback, hclose]
  exact ⟨rfl, congrArg Store.ledger hm'⟩

/-- A creation is concluded unless the failure of its frame stops it. -/
theorem ends_settleCreation {e : Except Stop Outcome} {l : Ledger}
    (h : (host.concludeCreation mark frame ended).Ends m e l)
    (hgoesOn : ∀ failure, ended.result = .error failure → failure.propagates = false) :
    (host.settleCreation mark frame ended).Ends m e l := by
  unfold settleCreation
  cases hended : ended.result with
  | ok output => exact h
  | error failure =>
    simp only [hgoesOn failure hended, if_neg Bool.false_ne_true]
    exact h

/-- **A creation stands** whatever its mark is: nothing goes back to it. -/
theorem creationStands_settle (host : Host) (mark : Nat) (frame : Frame) (ended : FrameEnd)
    (m : Machine NoFaults) :
    host.CreationStands frame.account ended m.store.ledger
      ((host.settleCreation mark frame ended).Ends m) where
  paid output hended hsize hprice := by
    have houtput : ended.output = output := by rw [FrameEnd.output, hended]
    obtain ⟨left, hleft⟩ : ∃ left : UInt64,
        left.toNat = ended.gasLeft.toNat - codeBytePrice * output.length :=
      ⟨.ofNat _, UInt64.toNat_ofNat_of_lt'
        (Nat.lt_of_le_of_lt (Nat.sub_le _ _) ended.gasLeft.toNat_lt)⟩
    have hpaid : left.toNat + codeBytePrice * output.length = ended.gasLeft.toNat := by omega
    have hdeposit : depositCode mark frame.account ended m = _ :=
      depositCode_of_paid frame.account hended hsize hpaid
    have hstands : host.undoesCreation ended.output none = false := by
      simp [undoesCreation, houtput, hsize]
    have hends := concludeCreation_of_stands hdeposit hstands
    rw [creationOutcome, houtput, if_neg (by simp [hsize])] at hends
    refine ⟨left, hleft, ends_settleCreation hends fun failure h => ?_, ?_⟩
    · rw [hended] at h
      cases h
    · rw [Ledger.codeAt_setCode, if_pos rfl]
  unpaid hfork h := by
    have hstands : host.undoesCreation ended.output (some .codeStoreOutOfGas) = false := by
      simp [undoesCreation, hfork, h.length_le]
    have hdeposit : depositCode mark frame.account ended m = _ :=
      depositCode_of_isUnpaid frame.account h
    have hends := concludeCreation_of_stands hdeposit hstands
    exact ends_settleCreation hends h.goesOn

/-- **A creation is undone** if its mark is that of an earlier ledger. -/
theorem creationUndone_settle (host : Host) {l : Ledger} (hl : l.Precedes m.store.ledger)
    (frame : Frame) (ended : FrameEnd) :
    host.CreationUndone frame.account ended l
      ((host.settleCreation l.snapshot frame ended).Ends m) where
  unpaid hfork h := by
    have hundone : host.undoesCreation ended.output (some .codeStoreOutOfGas) = true := by
      simp [undoesCreation, hfork]
    have hends := concludeCreation_of_undone (depositCode_of_isUnpaid frame.account h) hundone hl
    exact ends_settleCreation hends h.goesOn
  oversized output hended hsize := by
    have houtput : ended.output = output := by rw [FrameEnd.output, hended]
    have hundone : host.undoesCreation ended.output none = true := by
      simp [undoesCreation, houtput, hsize]
    have hends := concludeCreation_of_undone (depositCode_of_oversized frame.account hended hsize)
      hundone hl
    rw [creationOutcome, houtput, if_pos (by simp [hsize])] at hends
    refine ends_settleCreation hends fun failure h => ?_
    rw [hended] at h
    cases h
  failed failure hended hgoesOn hkind := by
    have hundone : host.undoesCreation ended.output (some failure) = true := by
      simp [undoesCreation, hkind]
    have hends := concludeCreation_of_undone (depositCode_of_error frame.account hended) hundone hl
    refine ends_settleCreation hends fun failure' h => ?_
    rw [hended] at h
    cases h
    exact hgoesOn
  stopped failure hended hstops := by
    have hsettle := host.settle_of_propagates (φ := NoFaults) (.create 0 [] 0 0) l.snapshot frame
      hended hstops
    rw [Run.Ends]
    rw [show host.settleCreation l.snapshot frame ended = _ from hsettle,
      bind_of_ok (rollBack_eq FaultModel.noFaults_sparesReverts hl frame failure)]
    exact ⟨rfl, rfl⟩

/-! ### The frame of a creation -/

section

variable {caller : Address} {code : Bytes} {gas : UInt64} {value : Word}

/-- **The frame of a creation** runs on the next contract of the caller, and what it marks is the
ledger with the nonce of the caller raised. -/
theorem marked_of_setUp_create (hooks : host.env.IsTame) {entered : Machine NoFaults}
    (hs : host.setUp (.create caller code gas value) m = (.ok (.ready mark frame), entered)) :
    frame.account = m.store.ledger.nextContract caller ∧
      ∃ next : UInt64, next.toNat = (m.store.ledger.nonceAt caller).toNat + 1 ∧
        mark = (m.store.ledger.setNonce caller next).snapshot ∧
        (m.store.ledger.setNonce caller next).Precedes entered.store.ledger := by
  obtain ⟨l, htakes, hmark, hforward⟩ := marked_of_ready hooks hs
  obtain ⟨next, hnext, rfl⟩ := htakes.eq_setNonce
  exact ⟨htakes.eq_nextContract, next, hnext, hmark, hforward⟩

/-- How the frame of a primitive ends and the machine it leaves, if the primitive gets a frame and
nothing stops it. -/
def ranFrame {φ : Type} [FaultModel φ] (host : Host) (nested : Primitive → Run φ Outcome)
    (p : Primitive) (m : Machine φ) : Option (FrameEnd × Machine φ) :=
  match host.setUp p m with
  | (.ok (.ready _ frame), entered) =>
    match host.runFrame nested frame frame.calldata entered with
    | (.ok ended, after) => some (ended, after)
    | (.error _, _) => none
  | _ => none

theorem ranFrame_eq_some_iff {nested : Primitive → Run NoFaults Outcome} {p : Primitive}
    {after : Machine NoFaults} :
    host.ranFrame nested p m = some (ended, after) ↔
      ∃ mark frame entered, host.setUp p m = (.ok (.ready mark frame), entered) ∧
        host.runFrame nested frame frame.calldata entered = (.ok ended, after) := by
  unfold ranFrame
  rcases hs : host.setUp p m with ⟨stop | outcome | ⟨mark, frame⟩, entered⟩
  · simp
  · simp
  dsimp only
  rcases hf : host.runFrame nested frame frame.calldata entered with ⟨stop | ended', after'⟩
  · constructor
    · intro h
      cases h
    · rintro ⟨_, _, _, hready, hran⟩
      cases hready
      rw [hf] at hran
      cases hran
  · constructor
    · intro h
      cases h
      exact ⟨mark, frame, entered, rfl, hf⟩
    · rintro ⟨_, _, _, hready, hran⟩
      cases hready
      rw [hf] at hran
      cases hran
      rfl

/-- **What becomes of a creation** that passed its checks and got its frame, whoever dispatches it
and however deeply it is nested.  If its output is not too large and the gas that the frame left
pays for it, the creation is a success: the output is the code of the new account and the changes
stay.  If it is not paid for, the creation fails: before the Homestead fork the changes and the gas
stay, from then on all is undone.  It is undone and loses its gas, too, if the output is too large,
and if the frame failed in any other way; and it is undone if the failure is one that stops the
creation.  Undone, it leaves the ledger from right after the nonce of the caller was raised. -/
theorem create_policy (hooks : host.env.IsTame) {bound : Nat} {after : Machine NoFaults}
    (hran : host.ranFrame (host.dispatchWithin bound) (.create caller code gas value) m =
      some (ended, after)) :
    let create := host.dispatchWithin (bound + 1) (.create caller code gas value)
    let account := m.store.ledger.nextContract caller
    host.CreationStands account ended after.store.ledger (create.Ends m) ∧
      (host.interpreter.Only Query.GoesForward →
        ∃ next : UInt64, next.toNat = (m.store.ledger.nonceAt caller).toNat + 1 ∧
          host.CreationUndone account ended (m.store.ledger.setNonce caller next)
            (create.Ends m)) := by
  intro create account
  obtain ⟨mark, frame, entered, hs, hf⟩ := ranFrame_eq_some_iff.1 hran
  obtain ⟨hframe, next, hnext, hmark, hentered⟩ := marked_of_setUp_create hooks hs
  have hends : create.Ends m = (host.settleCreation mark frame ended).Ends after := by
    have hsettle : create m = host.settleCreation mark frame ended after := by
      show host.primitive (host.dispatchWithin bound) (.create caller code gas value) m = _
      rw [primitive, bind_of_ok hs]
      exact bind_of_ok hf _
    funext e l
    rw [Run.Ends, Run.Ends, hsettle]
  rw [hends, ← show frame.account = account from hframe]
  refine ⟨host.creationStands_settle mark frame ended after, fun hprograms => ?_⟩
  have hrespects : host.Respects Query.GoesForward (Journaled (φ := NoFaults)) :=
    respects_journaled_of_goesForward FaultModel.noFaults_sparesReverts hooks
  have hforward : Journaled entered after := by
    have hnested := hrespects.dispatchWithin hprograms bound
    exact (hrespects.runFrame hnested hprograms frame frame.calldata).rel_of_eq hf
  refine ⟨next, hnext, ?_⟩
  rw [hmark]
  exact host.creationUndone_settle (hentered.trans hforward) frame ended

end

end Host

/-- Every code returns three bytes and takes seven units of gas for it. -/
def Interpreter.founding : Interpreter := fun frame _ =>
  .done { result := .ok [1, 2, 3], gasLeft := frame.gasRemaining - 7 }

/-- Every code takes seven units of gas and fails for want of gas for its code. -/
def Interpreter.insolvent : Interpreter := fun frame _ =>
  .done { result := .error .codeStoreOutOfGas, gasLeft := frame.gasRemaining - 7 }

/-- Every code goes back to the empty journal by itself, creates two accounts and fails. -/
def Interpreter.meddling : Interpreter := fun frame _ =>
  .ask (.store (.revert 0)) fun _ =>
    .ask (.store (.createAccount 8)) fun _ => .ask (.store (.createAccount 9)) fun _ =>
      .done { result := .error .reverted, gasLeft := frame.gasRemaining }

namespace Host

/-- A host before the Homestead fork, without built-in contracts, on which no value moves. -/
def beforeHomestead (interpreter : Interpreter) : Host where
  env := { transfer := fun _ _ _ => .done (.ok ()) }
  precompiles := ∅
  rules := ChainConfig.rules {} 0
  interpreter

theorem isTame_beforeHomestead (interpreter : Interpreter) :
    (beforeHomestead interpreter).env.IsTame where
  canTransfer := Procedure.onlyReads_covers
  transfer _ _ _ _ _ s := .refl s.ledger

/-- A creation that pays for three bytes of code. -/
theorem create_policy_founding :
    let create := (beforeHomestead .founding).dispatchWithin 2 (.create 1 [1] 1000 0)
    let account := withoutAccounts.store.ledger.nextContract 1
    ∃ left : UInt64, left.toNat = 993 - 200 * 3 ∧ ∃ l,
      create.Ends withoutAccounts (.ok { result := .success, gasLeft := left, output := [1, 2, 3],
                                         created := some account }) l ∧
        l.codeAt account = [1, 2, 3] := by
  intro create account
  have hend : ((beforeHomestead .founding).ranFrame ((beforeHomestead .founding).dispatchWithin 1)
      (.create 1 [1] 1000 0) withoutAccounts).map (fun ran => (ran.1.result, ran.1.gasLeft)) =
        some (.ok [1, 2, 3], 993) := by
    decide +kernel
  obtain ⟨⟨ended, after⟩, hran, hend⟩ := Option.map_eq_some_iff.1 hend
  obtain ⟨hresult, hleft⟩ := Prod.mk.inj hend
  have hgas : ended.gasLeft.toNat = 993 := congrArg UInt64.toNat hleft
  obtain ⟨hstands, -⟩ := create_policy (isTame_beforeHomestead _) hran
  have hprice : codeBytePrice * [1, 2, 3].length ≤ ended.gasLeft.toNat := by
    rw [hgas]
    decide
  obtain ⟨left, hleft, hends, hcode⟩ := hstands.paid [1, 2, 3] hresult (by decide) hprice
  refine ⟨left, ?_, _, hends, hcode⟩
  rw [hleft, hgas]
  rfl

/-- Two creations whose frames fail, and which keep more than the raised nonce.  The first one
keeps its changes and its gas, because its failure is that of a creation that is not paid for.  The
second one went back in the store by itself, and what it did after that is taken for what came
before it. -/
theorem create_policy_limits :
    (let host := beforeHomestead .insolvent
      let create := host.dispatchWithin 2 (.create 1 [1] 1000 0)
      (host.ranFrame (host.dispatchWithin 1) (.create 1 [1] 1000 0) withoutAccounts).map
          (·.1.result) = some (.error .codeStoreOutOfGas) ∧
        (create withoutAccounts).1.map (·.gasLeft) = .ok 993 ∧
        (create withoutAccounts).2.store.ledger ≠ withoutAccounts.store.ledger.setNonce 1 1) ∧
      let host := beforeHomestead .meddling
      let create := host.dispatchWithin 2 (.create 1 [1] 1000 0)
      (host.ranFrame (host.dispatchWithin 1) (.create 1 [1] 1000 0) withoutAccounts).map
          (·.1.result) = some (.error .reverted) ∧
        (create withoutAccounts).1.map (·.result) = .ok (.reverted .reverted) ∧
        (create withoutAccounts).2.store.ledger ≠ withoutAccounts.store.ledger.setNonce 1 1 := by
  -- the journals differ, in their lengths or in the kinds of their entries
  have hdiffer {α : Type} {l l' : Ledger} (f : Ledger → α) (h : f l ≠ f l') : l ≠ l' :=
    fun heq => h (congrArg f heq)
  constructor
  · intro host create
    refine ⟨?_, ?_, hdiffer (·.journal.length) ?_⟩
    · decide +kernel
    · decide +kernel
    · decide +kernel
  · intro host create
    refine ⟨?_, ?_, hdiffer (·.journal.map Undo.ctorIdx) ?_⟩
    · decide +kernel
    · decide +kernel
    · decide +kernel

end Host

end CallWatch
