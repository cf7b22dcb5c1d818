import CallWatch.Machine.Execution
import CallWatch.Proofs.Machine.Keeps

/-!
# Gas that is handed back

A primitive hands back at most the gas that it was given (`Host.yields_dispatchWithin`), if its
programs keep to that rule: none ends with more gas than its frame had (`Host.SparesGas`).  That is
said of the programs as they run, since what they do with their gas may depend on what nested
primitives hand back.

A program that keeps to the rule whatever the replies to its requests does so when it runs
(`Host.sparesGas_of_endsWith`).
-/

namespace CallWatch

namespace Run

variable {φ α β : Type}

/-- If the computation ends with a value, then with one of these. -/
def Yields (P : α → Prop) (x : Run φ α) : Prop :=
  ∀ m a m', x m = (.ok a, m') → P a

namespace Yields

variable {P : α → Prop} {Q : β → Prop} {x : Run φ α} {f : α → Run φ β}

theorem pure {a : α} (h : P a) : Yields P (Pure.pure a : Run φ α) := by
  intro m a' m' heq
  cases heq
  exact h

theorem stop (s : Stop) : Yields P (Run.stop s : Run φ α) := by
  intro m a m' heq
  cases heq

theorem fail (failure : Failure) : Yields P (Run.fail failure : Run φ α) :=
  stop _

theorem mono {P' : α → Prop} (hx : Yields P x) (h : ∀ a, P a → P' a) : Yields P' x :=
  fun m a m' heq => h a (hx m a m' heq)

theorem of_bind (hx : Yields P x) (hf : ∀ a, P a → Yields Q (f a)) : Yields Q (x >>= f) := by
  intro m b m' heq
  obtain ⟨a, m₁, ha, hb⟩ := bind_eq_ok_iff.1 heq
  exact hf a (hx m a m₁ ha) m₁ b m' hb

/-- Where the value of the first part does not matter. -/
theorem bind (hf : ∀ a, Yields Q (f a)) : Yields Q (x >>= f) :=
  of_bind (P := fun _ => True) (fun _ _ _ _ => trivial) fun a _ => hf a

variable [FaultModel φ]

theorem undoOnFailure (mark : Nat) (hx : Yields P x) : Yields P (Run.undoOnFailure mark x) :=
  fun m a m' heq => hx m a m' (eq_ok_of_undoOnFailure heq)

theorem guarded (hx : Yields P x) : Yields P (Run.guarded x) :=
  fun m a m' heq => hx m a m' (eq_ok_of_guarded heq)

end Yields

end Run

/-- A built-in contract only takes gas from its frame. -/
theorem Precompile.gas_run_le (p : Precompile) (frame : Frame) (input : Bytes) :
    (p.run frame input).2.gasRemaining ≤ frame.gasRemaining := by
  unfold run
  cases p.price input with
  | error failure => exact UInt64.le_refl _
  | ok price =>
    dsimp only
    cases hcharge : frame.charge? price with
    | none => exact UInt64.le_refl _
    | some paid =>
      obtain ⟨left, hleft, rfl⟩ := Option.map_eq_some_iff.1 hcharge
      have hsum := Checked.sub_eq_some_iff.1 hleft
      exact UInt64.le_iff_toNat_le.2 (by dsimp only; omega)

namespace Primitive

/-- The frame of a primitive that acts on this account and starts with this code at this depth. -/
def frame (account : Address) (code : Bytes) (depth : UInt64) : Primitive → Frame
  | call caller target input gas value => {
      caller, account, codeAddress := target, code, value, calldata := input
      gasLimit := gas, gasRemaining := gas, depth }
  | callCode caller codeAddress input gas value => {
      caller, account, codeAddress, code, value, calldata := input
      gasLimit := gas, gasRemaining := gas, depth }
  | delegateCall parent codeAddress input gas =>
    Frame.asDelegate {
      caller := parent.account, account, codeAddress, code, value := 0, calldata := input
      gasLimit := gas, gasRemaining := gas, depth } parent
  | create caller _ gas value => {
      caller, account, codeAddress := account, code, value, calldata := []
      gasLimit := gas, gasRemaining := gas, depth }

/-- A frame starts with the gas of its primitive. -/
theorem gasRemaining_frame (p : Primitive) (account : Address) (code : Bytes) (depth : UInt64) :
    (p.frame account code depth).gasRemaining = p.gas := by
  cases p <;> rfl

end Primitive

namespace Host

open Run

variable {φ : Type} [FaultModel φ] {host : Host} {nested : Primitive → Run φ Outcome}

/-- No program of a frame ends with more gas than the frame had. -/
def SparesGas (φ : Type) [FaultModel φ] (host : Host) : Prop :=
  ∀ bound frame input, Yields (fun ended => ended.gasLeft ≤ frame.gasRemaining)
    (host.run (φ := φ) (host.dispatchWithin bound) (host.interpreter frame input))

/-- The gas of a primitive goes to its frame, or back to where it came from. -/
def Setup.Gives (gas : UInt64) : Setup → Prop
  | .over outcome => outcome.gasLeft = gas
  | .ready _ frame => frame.gasRemaining = gas

theorem yields_refusal? (caller : Address) (gas : UInt64) (value? : Option Word) :
    Yields (φ := φ) (fun outcome? => ∀ outcome, outcome? = some outcome → outcome.gasLeft = gas)
      (host.refusal? caller gas value?) := by
  have hnone (outcome : Outcome) : none = some outcome → outcome.gasLeft = gas := by
    intro h
    cases h
  have hsome {outcome : Outcome} (hgas : outcome.gasLeft = gas) (outcome' : Outcome) :
      some outcome = some outcome' → outcome'.gasLeft = gas := by
    rintro ⟨⟩
    exact hgas
  refine .bind fun before => ?_
  dsimp only
  split
  · exact .pure (hsome rfl)
  split
  · exact .pure (hsome rfl)
  cases value? with
  | none => exact .pure hnone
  | some value =>
    refine .bind fun isCovered => ?_
    cases isCovered with
    | true => exact .pure hnone
    | false => exact .pure (hsome rfl)

/-- The frames that are set up. -/
theorem yields_enterFrame (account : Address) (p : Primitive) :
    Yields (φ := φ) (fun frame? => ∀ frame, frame? = some frame →
        ∃ code depth, frame = p.frame account code depth)
      (host.enterFrame account p) := by
  have hframe (code : Bytes) (depth : UInt64) (frame : Frame) :
      some (p.frame account code depth) = some frame →
        ∃ code depth, frame = p.frame account code depth := by
    rintro ⟨⟩
    exact ⟨code, depth, rfl⟩
  cases p with
  | call caller target input gas value =>
    refine .bind fun isThere => ?_
    cases isThere with
    | false => exact .pure fun frame h => by cases h
    | true =>
      refine .bind fun _ => .bind fun code => .bind fun before => .pure ?_
      exact hframe code before.depth
  | callCode | delegateCall =>
    exact .bind fun code => .bind fun before => .pure (hframe code before.depth)
  | create caller code gas value =>
    refine .bind fun _ => ?_
    dsimp only
    split
    · exact .bind fun _ => .bind fun _ => .bind fun before => .pure (hframe code before.depth)
    · exact .bind fun _ => .bind fun before => .pure (hframe code before.depth)

theorem yields_setUp (p : Primitive) :
    Yields (φ := φ) (Setup.Gives p.gas) (host.setUp p) := by
  refine .of_bind (yields_refusal? _ _ _) fun outcome? hrefused => ?_
  cases outcome? with
  | some outcome =>
    have hgas : (p.refused outcome).gasLeft = outcome.gasLeft := by cases p <;> rfl
    exact .pure (hgas.trans (hrefused outcome rfl))
  | none =>
    refine .bind fun account => .bind fun mark => ?_
    refine .of_bind (.undoOnFailure mark (yields_enterFrame account p)) fun frame? hframe => ?_
    cases frame? with
    | none => exact .pure rfl
    | some frame =>
      obtain ⟨code, depth, rfl⟩ := hframe frame rfl
      exact .bind fun _ => .pure (p.gasRemaining_frame account code depth)

/-! ### The frame and after it -/

theorem yields_runFrame (frame : Frame) (input : Bytes)
    (h : Yields (fun ended => ended.gasLeft ≤ frame.gasRemaining)
      (host.run nested (host.interpreter frame input))) :
    Yields (fun ended => ended.gasLeft ≤ frame.gasRemaining)
      (host.runFrame nested frame input) := by
  have hsame : frame.gasRemaining ≤ frame.gasRemaining := UInt64.le_refl _
  unfold runFrame
  cases host.precompiles[frame.codeAddress]? with
  | some precompile => exact .pure (precompile.gas_run_le frame input)
  | none =>
    dsimp only
    split
    · exact .pure hsame
    refine .bind fun before => ?_
    split
    · exact .pure hsame
    cases Checked.add before.depth 1 with
    | none => exact .pure hsame
    | some depth =>
      refine .bind fun _ => .of_bind h fun ended hgas => .bind fun after => ?_
      cases Checked.sub after.depth 1 with
      | none => exact .pure hgas
      | some depth => exact .bind fun _ => .pure hgas

theorem yields_settleCall (mark : Nat) (frame : Frame) (ended : FrameEnd) :
    Yields (φ := φ) (fun outcome => outcome.gasLeft ≤ ended.gasLeft)
      (host.settleCall mark frame ended) := by
  unfold settleCall
  cases ended.result with
  | ok output => exact .bind fun _ => .pure (UInt64.le_refl _)
  | error failure =>
    refine .bind fun _ => ?_
    split
    · exact .fail failure
    · exact .bind fun _ => .pure UInt64.zero_le

theorem yields_depositCode (mark : Nat) (a : Address) (ended : FrameEnd) :
    Yields (φ := φ) (fun answer => answer.2 ≤ ended.gasLeft) (depositCode mark a ended) := by
  have hsame : ended.gasLeft ≤ ended.gasLeft := UInt64.le_refl _
  unfold depositCode
  cases ended.result with
  | error failure => exact .pure hsame
  | ok code =>
    dsimp only
    split
    · exact .pure hsame
    cases hpaid : Checked.sub ended.gasLeft (Checked.saturate (codeBytePrice * code.length)) with
    | none => exact .pure hsame
    | some left =>
      have hsum := Checked.sub_eq_some_iff.1 hpaid
      exact .bind fun _ => .pure (UInt64.le_iff_toNat_le.2 (by dsimp only; omega))

omit [FaultModel φ] in
theorem yields_closeCreation (frame : Frame) (ended : FrameEnd) (failure? : Option Failure)
    (gasLeft : UInt64) :
    Yields (φ := φ) (fun outcome => outcome.gasLeft = gasLeft)
      (host.closeCreation frame ended failure? gasLeft) := by
  refine .bind fun _ => ?_
  dsimp only
  split
  · exact .bind fun _ => .pure rfl
  · exact .pure rfl

theorem yields_concludeCreation (mark : Nat) (frame : Frame) (ended : FrameEnd) :
    Yields (φ := φ) (fun outcome => outcome.gasLeft ≤ ended.gasLeft)
      (host.concludeCreation mark frame ended) := by
  refine .of_bind (yields_depositCode mark frame.account ended) fun ⟨failure?, left⟩ hleft => ?_
  dsimp only
  split
  · refine .bind fun _ => (yields_closeCreation frame ended failure? 0).mono fun outcome hgas => ?_
    rw [hgas]
    exact UInt64.zero_le
  · refine (yields_closeCreation frame ended failure? left).mono fun outcome hgas => ?_
    rw [hgas]
    exact hleft

theorem yields_settle (p : Primitive) (mark : Nat) (frame : Frame) (ended : FrameEnd) :
    Yields (φ := φ) (fun outcome => outcome.gasLeft ≤ ended.gasLeft)
      (host.settle p mark frame ended) := by
  cases p with
  | call | callCode | delegateCall => exact yields_settleCall mark frame ended
  | create =>
    show Yields _ (host.settleCreation mark frame ended)
    unfold settleCreation
    cases ended.result with
    | ok code => exact yields_concludeCreation mark frame ended
    | error failure =>
      dsimp only
      split
      · exact .bind fun _ => .fail failure
      · exact yields_concludeCreation mark frame ended

/-- A primitive spares gas if the programs of its frames do. -/
theorem yields_primitive
    (h : ∀ frame input, Yields (fun ended => ended.gasLeft ≤ frame.gasRemaining)
      (host.run nested (host.interpreter frame input))) (p : Primitive) :
    Yields (fun outcome => outcome.gasLeft ≤ p.gas) (host.primitive nested p) := by
  refine .of_bind (yields_setUp p) fun setup hsetup => ?_
  cases setup with
  | «over» outcome => exact .pure (UInt64.le_of_eq hsetup)
  | ready mark frame =>
    have hprogram := h frame frame.calldata
    refine .of_bind (yields_runFrame frame frame.calldata hprogram) fun ended hended => ?_
    have hgas : frame.gasRemaining = p.gas := hsetup
    rw [hgas] at hended
    refine (yields_settle p mark frame ended).mono fun outcome hleft => ?_
    exact UInt64.le_trans hleft hended

/-- **A primitive hands back at most the gas that it was given.** -/
theorem yields_dispatchWithin (h : host.SparesGas φ) (bound : Nat) (p : Primitive) :
    Yields (φ := φ) (fun outcome => outcome.gasLeft ≤ p.gas) (host.dispatchWithin bound p) := by
  cases bound with
  | zero => exact .stop _
  | succ bound => exact yields_primitive (h bound) p

/-- The root of a transaction leaves at most the gas of the transaction. -/
theorem yields_runRoot (h : host.SparesGas φ) (tx : Transaction) :
    Yields (φ := φ) (fun outcome => outcome.gasLeft ≤ tx.gasLimit) (host.runRoot tx) := by
  unfold runRoot
  cases tx.kind with
  | create => exact .guarded (yields_dispatchWithin h _ _)
  | call target =>
    refine .bind fun nonce => ?_
    cases Checked.add nonce 1 with
    | none => exact .fail _
    | some next => exact .bind fun _ => .guarded (yields_dispatchWithin h _ _)

end Host

end CallWatch
