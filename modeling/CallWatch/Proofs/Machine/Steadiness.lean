import CallWatch.Proofs.Machine.Respects

/-!
# Steady computations

A computation is steady if it neither changes the depth of the machine nor panics.  All that
primitives do around their programs is steady: setting up a frame (`Host.isSteady_setUp`), settling
it (`Host.isSteady_settle`), and the replies to requests that start no frame and do not write the
depth (`Host.isSteady_reply`).

Nor do these stop in any other way than with a failure (`Host.onlyFails_setUp`,
`Host.onlyFails_settle`), and a request that starts no frame always gets its reply
(`Host.stopsWithin_reply`).
-/

namespace CallWatch

open Run

namespace Host

variable {φ : Type}

/-- The depth is the same. -/
def SameDepth (m m' : Machine φ) : Prop :=
  m'.depth = m.depth

instance : IsPreorder (Machine φ) SameDepth where
  refl _ := rfl
  trans _ _ _ h h' := Eq.trans h' h

end Host

namespace Run

variable {φ α β : Type}

/-- The computation neither changes the depth nor panics. -/
structure IsSteady (x : Run φ α) : Prop where
  keeps : Keeps Host.SameDepth x
  neverPanics : NeverPanics x

namespace IsSteady

variable {x : Run φ α} {f : α → Run φ β}

theorem pure (a : α) : IsSteady (Pure.pure a : Run φ α) :=
  ⟨.pure a, .pure a⟩

theorem fail (failure : Failure) : IsSteady (Run.fail failure : Run φ α) :=
  ⟨.fail failure, NeverPanics.fail failure⟩

theorem ofExcept (answer : Except Failure α) : IsSteady (Run.ofExcept answer : Run φ α) := by
  cases answer with
  | ok a => exact pure a
  | error failure => exact fail failure

theorem get : IsSteady (Run.get : Run φ (Machine φ)) :=
  ⟨.get, .get⟩

theorem modify {change : Machine φ → Machine φ} (h : ∀ m, (change m).depth = m.depth) :
    IsSteady (Run.modify change) :=
  ⟨.modify h, .modify change⟩

theorem bind (hx : IsSteady x) (hf : ∀ a, IsSteady (f a)) : IsSteady (x >>= f) :=
  ⟨.bind hx.keeps fun a => (hf a).keeps, .bind hx.neverPanics fun a => (hf a).neverPanics⟩

theorem attempt (hx : IsSteady x) : IsSteady (Run.attempt x) :=
  ⟨.attempt hx.keeps, NeverPanics.attempt hx.neverPanics⟩

variable [FaultModel φ]

theorem ask (op : StoreOp) : IsSteady (Run.ask op : Run φ _) :=
  ⟨.ask fun _ => rfl, .of_ok fun _ => ⟨_, rfl⟩⟩

theorem store (op : StoreOp) : IsSteady (Run.store op : Run φ _) :=
  ⟨.store fun _ => rfl, NeverPanics.store op⟩

theorem perform (p : Procedure α) : IsSteady (Run.perform p : Run φ α) :=
  ⟨.perform fun _ => rfl, NeverPanics.perform p⟩

theorem undoOnFailure {mark : Nat} (hx : IsSteady x) : IsSteady (Run.undoOnFailure mark x) := by
  refine .bind hx.attempt fun answer => ?_
  cases answer with
  | ok a => exact .pure a
  | error failure => exact .bind (store _) fun _ => fail failure

end IsSteady

end Run

namespace Host

variable {φ : Type} {host : Host}

theorem isSteady_enter (event : CallEvent) : IsSteady (φ := φ) (Run.enter event) :=
  .modify fun _ => rfl

theorem isSteady_tell (change : Word → Watchdog → Watchdog) :
    IsSteady (φ := φ) (host.tell change) := by
  unfold tell
  cases host.env.txHash with
  | none => exact .pure ()
  | some hash => exact .modify fun _ => rfl

variable [FaultModel φ]

/-! ### Replies -/

theorem isSteady_reply (nested : Primitive → Run φ Outcome) {q : Query}
    (hdispatch : ∀ p, q ≠ .dispatch p) (hdepth : ∀ depth, q ≠ .setDepth depth) :
    IsSteady (host.reply nested q) := by
  cases q with
  | dispatch p => exact (hdispatch p rfl).elim
  | setDepth depth => exact (hdepth depth rfl).elim
  | storeWord a key value =>
    exact .attempt (.bind (.store _) fun _ => .bind (isSteady_tell _) fun _ => .store _)
  | loadWord a key => exact .attempt (.store _)
  | trace line => exact isSteady_tell _
  | store op => exact .ask op
  | blockHash => exact .pure _
  | isCancelled | depth | remembered => exact .bind .get fun _ => .pure _
  | cancel | setTracing | note | remember => exact .modify fun _ => rfl

/-! ### Setting up -/

theorem isSteady_refusal? (caller : Address) (gas : UInt64) (value? : Option Word) :
    IsSteady (φ := φ) (host.refusal? caller gas value?) := by
  unfold refusal?
  refine .bind .get fun before => ?_
  dsimp only
  split
  · exact .pure _
  split
  · exact .pure _
  cases value? with
  | none => exact .pure _
  | some value =>
    refine .bind (.perform _) fun isCovered => ?_
    cases isCovered <;> exact .pure _

theorem isSteady_takeAccount (p : Primitive) : IsSteady (φ := φ) (takeAccount p) := by
  cases p with
  | call | callCode | delegateCall => exact .pure _
  | create caller code gas value =>
    refine .bind (.store _) fun nonce => ?_
    cases Checked.add nonce 1 with
    | none => exact .fail _
    | some next => exact .bind (.store _) fun _ => .pure _

theorem isSteady_ensureTarget (target : Address) (value : Word) :
    IsSteady (φ := φ) (host.ensureTarget target value) := by
  refine .bind (.store _) fun isThere => ?_
  split
  · exact .pure _
  split
  · exact .pure _
  · exact .bind (.store _) fun _ => .pure _

theorem isSteady_enterFrame (account : Address) (p : Primitive) :
    IsSteady (φ := φ) (host.enterFrame account p) := by
  cases p with
  | call =>
    refine .bind (isSteady_ensureTarget _ _) fun isThere => ?_
    split
    · exact .bind (.perform _) fun _ => .bind (.store _) fun _ => .bind .get fun _ => .pure _
    · exact .pure _
  | callCode | delegateCall => exact .bind (.store _) fun _ => .bind .get fun _ => .pure _
  | create =>
    refine .bind (.store _) fun _ => ?_
    dsimp only
    split
    · exact .bind (.store _) fun _ => .bind (.perform _) fun _ => .bind .get fun _ => .pure _
    · exact .bind (.perform _) fun _ => .bind .get fun _ => .pure _

theorem isSteady_setUp (p : Primitive) : IsSteady (φ := φ) (host.setUp p) := by
  refine .bind (isSteady_refusal? _ _ _) fun outcome? => ?_
  cases outcome? with
  | some outcome => exact .pure _
  | none =>
    refine .bind (isSteady_takeAccount p) fun account => .bind (.store _) fun mark => ?_
    refine .bind (.undoOnFailure (isSteady_enterFrame account p)) fun frame? => ?_
    cases frame? with
    | none => exact .pure _
    | some frame => exact .bind (isSteady_enter _) fun _ => .pure _

/-! ### Settling -/

theorem isSteady_rollBack (mark : Nat) (frame : Frame) (failure : Failure) :
    IsSteady (φ := φ) (rollBack mark frame failure) :=
  .bind (.store _) fun _ => isSteady_enter _

theorem isSteady_settleCall (mark : Nat) (frame : Frame) (ended : FrameEnd) :
    IsSteady (φ := φ) (host.settleCall mark frame ended) := by
  unfold settleCall
  cases ended.result with
  | ok output => exact .bind (isSteady_enter _) fun _ => .pure _
  | error failure =>
    refine .bind (isSteady_rollBack mark frame failure) fun _ => ?_
    split
    · exact .fail failure
    · exact .bind (isSteady_tell _) fun _ => .pure _

theorem isSteady_depositCode (mark : Nat) (a : Address) (ended : FrameEnd) :
    IsSteady (φ := φ) (depositCode mark a ended) := by
  unfold depositCode
  cases ended.result with
  | error failure => exact .pure _
  | ok code =>
    dsimp only
    split
    · exact .pure _
    cases Checked.sub ended.gasLeft (Checked.saturate (codeBytePrice * code.length)) with
    | none => exact .pure _
    | some left => exact .bind (.undoOnFailure (.store _)) fun _ => .pure _

omit [FaultModel φ] in
theorem isSteady_closeCreation (frame : Frame) (ended : FrameEnd) (failure? : Option Failure)
    (gasLeft : UInt64) : IsSteady (φ := φ) (host.closeCreation frame ended failure? gasLeft) := by
  refine .bind (isSteady_enter _) fun _ => ?_
  dsimp only
  split
  · exact .bind (isSteady_tell _) fun _ => .pure _
  · exact .pure _

theorem isSteady_concludeCreation (mark : Nat) (frame : Frame) (ended : FrameEnd) :
    IsSteady (φ := φ) (host.concludeCreation mark frame ended) := by
  refine .bind (isSteady_depositCode mark frame.account ended) fun ⟨failure?, left⟩ => ?_
  dsimp only
  split
  · exact .bind (.store _) fun _ => isSteady_closeCreation frame ended failure? 0
  · exact isSteady_closeCreation frame ended failure? left

theorem isSteady_settleCreation (mark : Nat) (frame : Frame) (ended : FrameEnd) :
    IsSteady (φ := φ) (host.settleCreation mark frame ended) := by
  unfold settleCreation
  cases ended.result with
  | ok output => exact isSteady_concludeCreation mark frame ended
  | error failure =>
    dsimp only
    split
    · exact .bind (isSteady_rollBack mark frame failure) fun _ => .fail failure
    · exact isSteady_concludeCreation mark frame ended

theorem isSteady_settle (p : Primitive) (mark : Nat) (frame : Frame) (ended : FrameEnd) :
    IsSteady (φ := φ) (host.settle p mark frame ended) := by
  cases p with
  | create => exact isSteady_settleCreation mark frame ended
  | call | callCode | delegateCall => exact isSteady_settleCall mark frame ended

/-! ### How primitives stop around their programs -/

section

omit [FaultModel φ]

theorem stopsWithin_enter {stops : Stop → Prop} (event : CallEvent) :
    StopsWithin (φ := φ) stops (Run.enter event) :=
  .modify _

theorem stopsWithin_tell {stops : Stop → Prop} (change : Word → Watchdog → Watchdog) :
    StopsWithin (φ := φ) stops (host.tell change) := by
  unfold tell
  cases host.env.txHash with
  | none => exact .pure ()
  | some hash => exact .modify _

end

/-- **A request that starts no frame gets its reply**, whatever the store refuses. -/
theorem stopsWithin_reply {stops : Stop → Prop} (nested : Primitive → Run φ Outcome) {q : Query}
    (hdispatch : ∀ p, q ≠ .dispatch p) : StopsWithin stops (host.reply nested q) := by
  cases q with
  | dispatch p => exact (hdispatch p rfl).elim
  | storeWord a key value =>
    refine OnlyFails.attempt (.bind (OnlyFails.store _) fun _ => ?_)
    exact .bind (stopsWithin_tell _) fun _ => OnlyFails.store _
  | loadWord a key => exact OnlyFails.attempt (OnlyFails.store _)
  | trace line => exact stopsWithin_tell _
  | store op => exact .of_ok fun _ => ⟨_, rfl⟩
  | blockHash => exact .pure _
  | isCancelled | depth | remembered => exact .bind .get fun _ => .pure _
  | cancel | setDepth | setTracing | note | remember => exact .modify _

theorem onlyFails_refusal? (caller : Address) (gas : UInt64) (value? : Option Word) :
    OnlyFails (φ := φ) (host.refusal? caller gas value?) := by
  unfold refusal?
  refine .bind .get fun before => ?_
  dsimp only
  split
  · exact .pure _
  split
  · exact .pure _
  cases value? with
  | none => exact .pure _
  | some value =>
    refine .bind (OnlyFails.perform _) fun isCovered => ?_
    cases isCovered <;> exact .pure _

theorem onlyFails_takeAccount (p : Primitive) : OnlyFails (φ := φ) (takeAccount p) := by
  cases p with
  | call | callCode | delegateCall => exact .pure _
  | create caller code gas value =>
    refine .bind (OnlyFails.store _) fun nonce => ?_
    cases Checked.add nonce 1 with
    | none => exact OnlyFails.fail rfl
    | some next => exact .bind (OnlyFails.store _) fun _ => .pure _

/-- Before its frame, a primitive stops only with a failure. -/
theorem onlyFails_enterFrame (account : Address) (p : Primitive) :
    OnlyFails (φ := φ) (host.enterFrame account p) := by
  cases p with
  | call caller target input gas value =>
    have hensure : OnlyFails (φ := φ) (host.ensureTarget target value) := by
      refine .bind (OnlyFails.store _) fun isThere => ?_
      split
      · exact .pure _
      split
      · exact .pure _
      · exact .bind (OnlyFails.store _) fun _ => .pure _
    refine .bind hensure fun isThere => ?_
    split
    · refine .bind (OnlyFails.perform _) fun _ => .bind (OnlyFails.store _) fun _ => ?_
      exact .bind .get fun _ => .pure _
    · exact .pure _
  | callCode | delegateCall =>
    exact .bind (OnlyFails.store _) fun _ => .bind .get fun _ => .pure _
  | create caller code gas value =>
    have hrest : OnlyFails (φ := φ) (do
        Run.perform (host.env.transfer caller account value)
        return some {
          caller, account, codeAddress := account, code, value, calldata := []
          gasLimit := gas, gasRemaining := gas, depth := (← Run.get).depth : Frame }) :=
      .bind (OnlyFails.perform _) fun _ => .bind .get fun _ => .pure _
    refine .bind (OnlyFails.store _) fun _ => ?_
    dsimp only
    split
    · exact .bind (OnlyFails.store _) fun _ => hrest
    · exact hrest

theorem onlyFails_setUp (p : Primitive) : OnlyFails (φ := φ) (host.setUp p) := by
  refine .bind (onlyFails_refusal? _ _ _) fun outcome? => ?_
  cases outcome? with
  | some outcome => exact .pure _
  | none =>
    refine .bind (onlyFails_takeAccount p) fun account => .bind (OnlyFails.store _) fun mark => ?_
    refine .bind (OnlyFails.undoOnFailure (host.onlyFails_enterFrame account p)) fun frame? => ?_
    cases frame? with
    | none => exact .pure _
    | some frame => exact .bind (stopsWithin_enter _) fun _ => .pure _

theorem onlyFails_rollBack (mark : Nat) (frame : Frame) (failure : Failure) :
    OnlyFails (φ := φ) (rollBack mark frame failure) :=
  .bind (OnlyFails.store _) fun _ => stopsWithin_enter _

omit [FaultModel φ] in
theorem onlyFails_closeCreation (frame : Frame) (ended : FrameEnd) (failure? : Option Failure)
    (gasLeft : UInt64) :
    OnlyFails (φ := φ) (host.closeCreation frame ended failure? gasLeft) := by
  refine .bind (stopsWithin_enter _) fun _ => ?_
  dsimp only
  split
  · exact .bind (stopsWithin_tell _) fun _ => .pure _
  · exact .pure _

theorem onlyFails_depositCode (mark : Nat) (a : Address) (ended : FrameEnd) :
    OnlyFails (φ := φ) (depositCode mark a ended) := by
  unfold depositCode
  cases ended.result with
  | error failure => exact .pure _
  | ok code =>
    dsimp only
    split
    · exact .pure _
    cases Checked.sub ended.gasLeft (Checked.saturate (codeBytePrice * code.length)) with
    | none => exact .pure _
    | some left => exact .bind (OnlyFails.undoOnFailure (OnlyFails.store _)) fun _ => .pure _

theorem onlyFails_concludeCreation (mark : Nat) (frame : Frame) (ended : FrameEnd) :
    OnlyFails (φ := φ) (host.concludeCreation mark frame ended) := by
  refine .bind (onlyFails_depositCode mark frame.account ended) fun ⟨failure?, left⟩ => ?_
  dsimp only
  split
  · exact .bind (OnlyFails.store _) fun _ => onlyFails_closeCreation frame ended failure? 0
  · exact onlyFails_closeCreation frame ended failure? left

/-- **Settling a frame stops only with a failure.** -/
theorem onlyFails_settle (p : Primitive) (mark : Nat) (frame : Frame) (ended : FrameEnd) :
    OnlyFails (φ := φ) (host.settle p mark frame ended) := by
  have hcall : OnlyFails (φ := φ) (host.settleCall mark frame ended) := by
    unfold settleCall
    cases ended.result with
    | ok output => exact .bind (stopsWithin_enter _) fun _ => .pure _
    | error failure =>
      refine .bind (onlyFails_rollBack mark frame failure) fun _ => ?_
      split
      · next hpropagates => exact OnlyFails.fail hpropagates
      · exact .bind (stopsWithin_tell _) fun _ => .pure _
  cases p with
  | create =>
    show OnlyFails (host.settleCreation mark frame ended)
    unfold settleCreation
    cases ended.result with
    | ok output => exact onlyFails_concludeCreation mark frame ended
    | error failure =>
      dsimp only
      split
      · next hpropagates =>
        exact .bind (onlyFails_rollBack mark frame failure) fun _ => OnlyFails.fail hpropagates
      · exact onlyFails_concludeCreation mark frame ended
  | call | callCode | delegateCall => exact hcall

end Host

end CallWatch
