import CallWatch.Machine.Basic
import CallWatch.Rlp

/-!
# The four primitives

All primitives run in the same three stages.  `Host.setUp` first checks whether the primitive may
run at all; a refusal costs nothing and touches nothing.  Then it takes a snapshot and sets up a
frame: a failure of the setup goes back to the snapshot.  `Host.runFrame` runs the frame, between
an opening and a closing event of the call log, and `Host.settle` settles the snapshot.  A frame
that fails loses its gas and goes back to the snapshot; failures of the store and of the machine
itself leave the primitive as they are, all others become its outcome.

A creation raises the nonce of its caller before the snapshot.  It stores what its code returns as
the code of the new account, if the frame can pay for it, and goes back to the snapshot in almost
all other cases; `Host.settleCreation` lists them.

`Host.dispatch` ties the knot between primitives and programs.  The nesting it allows for is
bounded, but every nested frame raises the depth, which is a 64-bit counter, so programs that do
not write the depth themselves never reach the bound.
-/

namespace CallWatch

/-- The most code that an account can hold. -/
def maxCodeSize : Nat := 24576

/-- The price of a byte of code that is stored. -/
def codeBytePrice : Nat := 200

namespace Primitive

/-- The account that a primitive is charged to. -/
def payer : Primitive → Address
  | call caller _ _ _ _ | callCode caller _ _ _ _ | create caller _ _ _ => caller
  | delegateCall parent _ _ _ => parent.account

/-- The gas that a primitive is given. -/
def gas : Primitive → UInt64
  | call _ _ _ gas _ | callCode _ _ _ gas _ | delegateCall _ _ _ gas | create _ _ gas _ => gas

/-- The value that the payer must be able to afford; a delegate call has none of its own. -/
def value? : Primitive → Option Word
  | call _ _ _ _ value | callCode _ _ _ _ value | create _ _ _ value => some value
  | delegateCall _ _ _ _ => none

/-- The outcome of a primitive that was refused; a creation never got to derive an address. -/
def refused (outcome : Outcome) : Primitive → Outcome
  | create _ _ _ _ => { outcome with output := [], created := some 0 }
  | call _ _ _ _ _ | callCode _ _ _ _ _ | delegateCall _ _ _ _ => outcome

/-- The event that opens a primitive on an account in the call log. -/
def opening (account : Address) (depth : UInt64) : Primitive → CallEvent
  | call caller target input gas value => .call caller target value gas input depth
  | callCode caller codeAddress input gas value =>
    .callCode caller codeAddress value gas input depth
  | delegateCall parent codeAddress input gas =>
    .delegateCall parent.account codeAddress gas input depth
  | create caller _ gas value => .create caller account value gas depth

end Primitive

namespace Host

variable {φ : Type} [FaultModel φ]

/-! ### Running the program of a frame -/

/-- The reply to a request. -/
def reply (host : Host) (nested : Primitive → Run φ Outcome) : (q : Query) → Run φ q.Reply
  | .dispatch primitive => .attempt (nested primitive)
  | .storeWord account key value => .attempt (host.storeWord account key value)
  | .loadWord account key => .attempt (.loadWord account key)
  | .trace line => host.trace line
  | .blockHash number => pure (host.env.blockHash number)
  | .cancel => .modify fun m => { m with isCancelled := true }
  | .isCancelled => do return (← .get).isCancelled
  | .depth => do return (← .get).depth
  | .setDepth depth => .modify fun m => { m with depth }
  | .setTracing isActive => .modify fun m => { m with log := { m.log with isActive } }
  | .store op => .ask op
  | .note note => .modify fun m => { m with notes := m.notes.push note }
  | .remembered => do return (← .get).memory
  | .remember memory => .modify fun m => { m with memory }

/-- Runs a program. -/
def run (host : Host) (nested : Primitive → Run φ Outcome) {α : Type} : Program α → Run φ α
  | .done value => pure value
  | .panic message => .stop (.panicked message)
  | .ask query next => do
    let reply ← host.reply nested query
    host.run nested (next reply)
  | .guarded body next => do
    let answer ← .attempt (.guarded do .ofExcept (← host.run nested body))
    host.run nested (next answer)

/-- Runs a frame: the built-in contract at its code address if there is one, otherwise its code.
Empty code does nothing, and once the machine is cancelled no other code is started. -/
def runFrame (host : Host) (nested : Primitive → Run φ Outcome) (frame : Frame) (input : Bytes) :
    Run φ FrameEnd := do
  match host.precompiles[frame.codeAddress]? with
  | some precompile =>
    let (result, frame) := precompile.run frame input
    return { result, gasLeft := frame.gasRemaining }
  | none =>
    if frame.code.isEmpty then
      return { result := .ok [], gasLeft := frame.gasRemaining }
    let before ← .get
    if before.isCancelled then
      return { result := .error (.halt .cancelled), gasLeft := frame.gasRemaining }
    match Checked.add before.depth 1 with
    | none => return { result := .error (.internal .overflow), gasLeft := frame.gasRemaining }
    | some depth =>
      .modify fun m => { m with depth }
      let ended ← host.run nested (host.interpreter frame input)
      -- the program may have written the depth, so there need not be one to leave
      match Checked.sub (← .get).depth 1 with
      | none => return { ended with result := .error (.internal .underflow) }
      | some depth =>
        .modify fun m => { m with depth }
        return ended

/-! ### Before the frame -/

/-- The outcome of a primitive that may not run: it is nested where nothing may be, too deep, or
worth more than the caller has.  A primitive without a value of its own is not asked for it. -/
def refusal? (host : Host) (caller : Address) (gas : UInt64) (value? : Option Word) :
    Run φ (Option Outcome) := do
  -- the store is only asked for the balance, and last
  let depth := (← .get).depth
  if host.config.noRecursion ∧ 0 < depth then
    return some (.success gas [])
  if host.config.maxCallDepth < depth then
    return some (.reverted .depthExceeded gas)
  match value? with
  | none => return none
  | some value =>
    if ← .perform (host.env.canTransfer caller value) then return none
    return some (.reverted .insufficientBalance gas)

/-- The account that the frame of a primitive will act on.  A creation raises the nonce of the
caller and derives a new address. -/
def takeAccount : Primitive → Run φ Address
  | .call _ target _ _ _ => pure target
  | .callCode caller _ _ _ _ => pure caller
  | .delegateCall parent _ _ _ => pure parent.account
  | .create caller _ _ _ => do
    let nonce ← .store (.getNonce caller)
    match Checked.add nonce 1 with
    | none => .fail (.internal .overflow)
    | some next =>
      .store (.setNonce caller next)
      return contractAddress caller nonce

/-- Makes sure that the target of a call exists; whether it then does.  It is not created if it
would stay empty, which the state-clearing fork forbids. -/
def ensureTarget (host : Host) (target : Address) (value : Word) : Run φ Bool := do
  if ← .store (.exist target) then return true
  if !host.precompiles.contains target && host.rules.isEip158 && value == 0 then
    return false
  .store (.createAccount target)
  return true

/-- Sets up the frame of a primitive on an account: makes sure that the account exists, moves the
value and fetches the code, as far as the primitive does so.  There is no frame if the target of a
call is not there. -/
def enterFrame (host : Host) (account : Address) : Primitive → Run φ (Option Frame)
  | .call caller target input gas value => do
    if ← host.ensureTarget target value then
      .perform (host.env.transfer caller target value)
      let code ← .store (.getCode target)
      return some {
        caller, account, codeAddress := target, code, value, calldata := input
        gasLimit := gas, gasRemaining := gas, depth := (← .get).depth }
    else return none
  | .callCode caller codeAddress input gas value => do
    let code ← .store (.getCode codeAddress)
    return some {
      caller, account, codeAddress, code, value, calldata := input
      gasLimit := gas, gasRemaining := gas, depth := (← .get).depth }
  | .delegateCall parent codeAddress input gas => do
    let code ← .store (.getCode codeAddress)
    let frame : Frame := {
      caller := parent.account, account, codeAddress, code, value := 0, calldata := input
      gasLimit := gas, gasRemaining := gas, depth := (← .get).depth }
    return some (frame.asDelegate parent)
  | .create caller code gas value => do
    .store (.createAccount account)
    -- since the state-clearing fork contracts start at nonce one, and so are never empty
    if host.rules.isEip158 then
      .store (.setNonce account 1)
    .perform (host.env.transfer caller account value)
    return some {
      caller, account, codeAddress := account, code, value, calldata := []
      gasLimit := gas, gasRemaining := gas, depth := (← .get).depth }

/-- How far a primitive came before its frame. -/
inductive Setup where
  /-- There is nothing to run. -/
  | over (outcome : Outcome)
  /-- The frame is ready, and the state before it was marked. -/
  | ready (mark : Nat) (frame : Frame)

/-- Marks the state and sets up the frame of a primitive on an account.  A failure on the way goes
back to the mark. -/
def prepare (host : Host) (account : Address) (p : Primitive) : Run φ Setup := do
  let mark ← .store .snapshot
  match ← .undoOnFailure mark (host.enterFrame account p) with
  | none => return .over (.success p.gas [])
  | some frame =>
    .enter (p.opening account frame.depth)
    return .ready mark frame

/-- Checks whether a primitive may run, and sets up its frame. -/
def setUp (host : Host) (p : Primitive) : Run φ Setup := do
  match ← host.refusal? p.payer p.gas p.value? with
  | some outcome => return .over (p.refused outcome)
  | none =>
    let account ← takeAccount p
    host.prepare account p

/-! ### After the frame -/

/-- Goes back to the mark of a frame that failed, and closes its entry in the call log. -/
def rollBack (mark : Nat) (frame : Frame) (failure : Failure) : Run φ Unit := do
  .store (.revert mark)
  .enter (.close 0 frame.depth (some failure.message))

/-- Settles the snapshot of a call whose frame has ended. -/
def settleCall (host : Host) (mark : Nat) (frame : Frame) (ended : FrameEnd) :
    Run φ Outcome := do
  match ended.result with
  | .ok output =>
    .enter (.close ended.gasLeft frame.depth none)
    return .success ended.gasLeft output
  | .error failure =>
    rollBack mark frame failure
    if failure.propagates then .fail failure
    else
      host.flagThrow
      return .reverted failure 0

/-- Pays for the code that a creation returns and stores it: why that fails, if it does, and the
gas that is left.  A failure of the frame stands, and code that is too large is neither paid nor
stored. -/
def depositCode (mark : Nat) (address : Address) (ended : FrameEnd) :
    Run φ (Option Failure × UInt64) := do
  match ended.result with
  | .error failure => return (some failure, ended.gasLeft)
  | .ok code =>
    -- code that is too large is no failure here, but `undoesCreation` sees it
    if maxCodeSize < code.length then return (none, ended.gasLeft)
    match Checked.sub ended.gasLeft (Checked.saturate (codeBytePrice * code.length)) with
    | none => return (some .codeStoreOutOfGas, ended.gasLeft)
    | some left =>
      .undoOnFailure mark (.store (.setCode address code))
      return (none, left)

/-- Whether a creation that returned this code, and failed for this reason if it did, is undone: it
is if the code is too large or if there is a failure, except that before the Homestead fork a
creation that cannot pay for its code keeps its changes and only goes without the code. -/
def undoesCreation (host : Host) (code : Bytes) (failure? : Option Failure) : Bool :=
  decide (maxCodeSize < code.length) ||
    failure?.any fun failure => host.rules.isHomestead || failure != .codeStoreOutOfGas

/-- Closes the entry of a creation in the call log and makes up its outcome. -/
def closeCreation (host : Host) (frame : Frame) (ended : FrameEnd) (failure? : Option Failure)
    (gasLeft : UInt64) : Run φ Outcome := do
  .enter (.close gasLeft frame.depth (failure?.map (·.message)))
  if failure?.isSome then
    host.flagThrow
  let isWithoutCode := failure?.isSome || decide (maxCodeSize < ended.output.length)
  return {
    result := failure?.elim .success .reverted
    gasLeft
    output := if isWithoutCode then [] else ended.output
    created := some frame.account }

/-- Ends a creation whose frame did not stop the machine.  One that is undone loses its gas. -/
def concludeCreation (host : Host) (mark : Nat) (frame : Frame) (ended : FrameEnd) :
    Run φ Outcome := do
  let (failure?, left) ← depositCode mark frame.account ended
  if host.undoesCreation ended.output failure? then
    .store (.revert mark)
    host.closeCreation frame ended failure? 0
  else host.closeCreation frame ended failure? left

/-- Settles the snapshot of a creation whose frame has ended. -/
def settleCreation (host : Host) (mark : Nat) (frame : Frame) (ended : FrameEnd) :
    Run φ Outcome := do
  match ended.result with
  | .error failure =>
    if failure.propagates then
      rollBack mark frame failure
      .fail failure
    else host.concludeCreation mark frame ended
  | .ok _ => host.concludeCreation mark frame ended

/-- Settles the snapshot of a primitive whose frame has ended. -/
def settle (host : Host) : Primitive → (mark : Nat) → Frame → FrameEnd → Run φ Outcome
  | .create _ _ _ _ => host.settleCreation
  | .call _ _ _ _ _ | .callCode _ _ _ _ _ | .delegateCall _ _ _ _ => host.settleCall

/-! ### Dispatch -/

/-- Runs a primitive, given how primitives nested in it are run. -/
def primitive (host : Host) (nested : Primitive → Run φ Outcome) (p : Primitive) :
    Run φ Outcome := do
  match ← host.setUp p with
  | .over outcome => return outcome
  | .ready mark frame =>
    let ended ← host.runFrame nested frame frame.calldata
    host.settle p mark frame ended

/-- Runs a primitive in which primitives nest at most `bound` deep, itself included. -/
def dispatchWithin (host : Host) : (bound : Nat) → Primitive → Run φ Outcome
  | 0, _ => .stop .exhausted
  | bound + 1, p => host.primitive (host.dispatchWithin bound) p

/-- More than primitives can nest, as every level has a depth of its own. -/
def nestingBound : Nat := Nat.pow 2 64

/-- Runs a primitive. -/
def dispatch (host : Host) (p : Primitive) : Run φ Outcome :=
  host.dispatchWithin nestingBound p

end Host

end CallWatch
