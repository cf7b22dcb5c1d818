import CallWatch.Program

/-!
# Scripts

A small language of programs.  A `Script` is a list of steps, each of which may hang on a
condition.  It runs with the gas of its frame and remembers the last primitive that it dispatched.
A step that ends the script gives its result; a script that runs off its end returns nothing.

`Interpreter.scripted` picks the script of a frame by its code.
-/

namespace CallWatch

/-- What a step may hang on. -/
inductive Condition where
  | depthAtLeast (depth : UInt64)
  | depthBelow (depth : UInt64)
  | inputIs (input : Bytes)
  | slotIs (key value : Word)
  deriving DecidableEq, Repr

/-- A primitive as a script names it: caller, parent and gas come from the frame. -/
inductive NestedCall where
  | call (target : Address) (input : Bytes) (value : Word)
  | callCode (target : Address) (input : Bytes) (value : Word)
  | delegateCall (target : Address) (input : Bytes)
  | create (code : Bytes) (value : Word)
  deriving DecidableEq, Repr

/-- What a step does. -/
inductive Action where
  | store (key value : Word)
  | load (key : Word)
  | trace (line : String)
  | blockHash (number : UInt64)
  /-- Notes down the gas that is left. -/
  | gas
  | useGas (gas : UInt64)
  | addGas (gas : UInt64)
  /-- Dispatches a primitive with at most this much gas.  Its failure ends the script unless
  `goesOn`. -/
  | dispatch (call : NestedCall) (gas : UInt64) (isGuarded goesOn : Bool)
  /-- Ends the script with a failure if the last primitive failed. -/
  | requireLast
  | cancel
  /-- Ends the script with a failure if the machine is cancelled. -/
  | checkCancelled
  | setDepth (depth : UInt64)
  | setTracing (isActive : Bool)
  | useStore (call : StoreCall)
  | return (output : Bytes)
  | returnInput
  | returnLast
  | fail (failure : Failure)
  | panic (message : Option String)
  deriving DecidableEq, Repr

/-- A step of a script. -/
structure Step where
  condition : Option Condition := none
  action : Action
  deriving DecidableEq, Repr

/-- A list of steps. -/
abbrev Script := List Step

/-- The primitive that a frame dispatches with this much gas. -/
def NestedCall.primitive (frame : Frame) (gas : UInt64) : NestedCall → Primitive
  | call target input value => .call frame.account target input gas value
  | callCode target input value => .callCode frame.account target input gas value
  | delegateCall target input => .delegateCall frame target input gas
  | create code value => .create frame.account code gas value

/-- The state of a script that runs. -/
structure Progress where
  /-- The frame with the gas that is left. -/
  frame : Frame
  /-- Whether the last primitive succeeded, and its output. -/
  last : Option (Bool × Bytes) := none

/-- A part of a script that runs; it may end the script with a result. -/
abbrev Scripted := ExceptT (Except Failure Bytes) (StateT Progress Program)

namespace Scripted

/-- Ends the script. -/
def finish {α : Type} (result : Except Failure Bytes) : Scripted α :=
  throw result

/-- Ends the script with a failure. -/
def fail {α : Type} (failure : Failure) : Scripted α :=
  finish (.error failure)

/-- The value of a reply; its failure ends the script. -/
def ofReply {α : Type} : Except Failure α → Scripted α
  | .ok a => pure a
  | .error failure => fail failure

/-- Makes a request. -/
def request (query : Query) : Scripted query.Reply :=
  liftM (Program.request query)

/-- Notes something down. -/
def note (n : Note) : Scripted Unit :=
  request (.note n)

/-- Changes the gas of the frame. -/
def setGas (gas : UInt64) : Scripted Unit :=
  modify fun p => { p with frame := { p.frame with gasRemaining := gas } }

/-- Whether a condition holds. -/
def holds (input : Bytes) : Condition → Scripted Bool
  | .depthAtLeast depth => do return depth ≤ (← get).frame.depth
  | .depthBelow depth => do return (← get).frame.depth < depth
  | .inputIs expected => return input = expected
  | .slotIs key expected => do
    let value ← ofReply (← request (.loadWord (← get).frame.account key))
    return value = expected

/-- Dispatches a primitive.  Its gas is taken from the frame beforehand, and what is left of it
is put back afterwards, unless the primitive fails. -/
def dispatch (call : NestedCall) (gas : UInt64) (isGuarded goesOn : Bool) : Scripted Unit := do
  let available := (← get).frame.gasRemaining
  let budget := min gas available
  setGas (available - budget)
  let query := Query.dispatch (call.primitive (← get).frame budget)
  let answer ← if isGuarded then liftM (Program.guard (Program.request query)) else request query
  note (.nested answer)
  match answer with
  | .ok outcome =>
    -- an outcome gives its gas back also if it is a failure of the frame
    setGas (Checked.saturate ((available - budget).toNat + outcome.gasLeft.toNat))
    modify fun p => { p with last := some (outcome.result.isSuccess, outcome.output) }
  | .error failure =>
    if goesOn then modify fun p => { p with last := some (false, []) }
    else fail failure

/-- Does a step. -/
def act (input : Bytes) : Action → Scripted Unit
  | .store key value => do ofReply (← request (.storeWord (← get).frame.account key value))
  | .load key => do
    let value ← ofReply (← request (.loadWord (← get).frame.account key))
    note (.loaded value)
  | .trace line => request (.trace line)
  | .blockHash number => do note (.blockHash (← request (.blockHash number)))
  | .gas => do note (.gas (← get).frame.gasRemaining)
  | .useGas gas => do
    match (← get).frame.charge? gas with
    | some frame => modify fun p => { p with frame }
    | none => fail .outOfGas
  | .addGas gas => do
    setGas (Checked.saturate ((← get).frame.gasRemaining.toNat + gas.toNat))
  | .dispatch call gas isGuarded goesOn => dispatch call gas isGuarded goesOn
  | .requireLast => do
    if (← get).last.any (!·.1) then fail .reverted
  | .cancel => request .cancel
  | .checkCancelled => do
    if ← request .isCancelled then fail (.halt .cancelled)
  | .setDepth depth => request (.setDepth depth)
  | .setTracing isActive => request (.setTracing isActive)
  | .useStore call => do
    let answer ← liftM (Program.ofProcedure call.procedure)
    note (.stored call answer)
  | .return output => finish (.ok output)
  | .returnInput => finish (.ok input)
  | .returnLast => do finish (.ok ((← get).last.elim [] (·.2)))
  | .fail failure => fail failure
  | .panic message => liftM (Program.panic message : Program Unit)

/-- Does the steps whose conditions hold, in order. -/
def steps (input : Bytes) : Script → Scripted Unit
  | [] => pure ()
  | step :: rest => do
    let isDue ← match step.condition with
      | none => pure true
      | some condition => holds input condition
    if isDue then
      act input step.action
    steps input rest

end Scripted

/-- The program of a script in a frame. -/
def Script.program (script : Script) (frame : Frame) (input : Bytes) : Program FrameEnd := do
  let (ended, progress) ← ((Scripted.steps input script).run).run { frame }
  let result := match ended with
    | .ok () => .ok []
    | .error result => result
  return { result, gasLeft := progress.frame.gasRemaining }

/-- The interpreter that runs the script found for the code of a frame; a frame without a script
returns nothing. -/
def Interpreter.scripted (find : Bytes → Option Script) : Interpreter := fun frame input => do
  let depth ← Program.request .depth
  let _ ← Program.request (.note (.entered frame input depth))
  ((find frame.code).getD []).program frame input

end CallWatch
