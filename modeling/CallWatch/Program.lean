import CallWatch.Frame
import CallWatch.Ledger.Procedure
import CallWatch.Outcome

/-!
# Programs

What an interpreter does with a machine.  A `Program` is a finite tree of requests to the machine
(`Query`), each of which names the type of its reply; it ends with a value or by a panic.  A part
of a program may be guarded: a panic inside it undoes that part and is handed to the rest as a
failure.

An `Interpreter` turns a frame and its input into the program of that frame, which ends with the
output or the failure of the frame and the gas that it leaves.  Programs share a memory of their
own, by which an interpreter can behave differently from one frame to the next.

The four primitives, by which frames start other frames, are data as well (`Primitive`).
-/

namespace CallWatch

/-- A request to start a frame. -/
inductive Primitive where
  /-- Runs the code at `target` on the account at `target`. -/
  | call (caller target : Address) (input : Bytes) (gas : UInt64) (value : Word)
  /-- Runs the code at `codeAddress` on the account of `caller`. -/
  | callCode (caller codeAddress : Address) (input : Bytes) (gas : UInt64) (value : Word)
  /-- Runs the code at `codeAddress` in the place of the frame `parent`. -/
  | delegateCall (parent : Frame) (codeAddress : Address) (input : Bytes) (gas : UInt64)
  /-- Runs `code` on a new account, whose code will be what it returns. -/
  | create (caller : Address) (code : Bytes) (gas : UInt64) (value : Word)
  deriving DecidableEq, Repr

/-- What a program notes down about itself. -/
inductive Note where
  /-- It was started, at this depth of the machine. -/
  | entered (frame : Frame) (input : Bytes) (depth : UInt64)
  | loaded (value : Word)
  | blockHash (hash : Word)
  | gas (remaining : UInt64)
  | nested (answer : Except Failure Outcome)
  | stored (call : StoreCall) (answer : Except StoreFault call.Answer)

/-- A request to the machine. -/
inductive Query where
  | dispatch (primitive : Primitive)
  /-- Writes a storage slot, reporting it to the watchdogs. -/
  | storeWord (account : Address) (key value : Word)
  | loadWord (account : Address) (key : Word)
  /-- Writes a trace line. -/
  | trace (line : String)
  | blockHash (number : UInt64)
  | cancel
  | isCancelled
  | depth
  | setDepth (depth : UInt64)
  /-- Switches the call log on or off. -/
  | setTracing (isActive : Bool)
  /-- Goes to the store directly. -/
  | store (op : StoreOp)
  | note (note : Note)
  /-- What programs remember. -/
  | remembered
  /-- Replaces what programs remember. -/
  | remember (memory : Bytes)

/-- The type of the reply to a request. -/
@[reducible] def Query.Reply : Query → Type
  | .dispatch _ => Except Failure Outcome
  | .storeWord _ _ _ => Except Failure Unit
  | .loadWord _ _ => Except Failure Word
  | .blockHash _ => Word
  | .isCancelled => Bool
  | .depth => UInt64
  | .store op => Except StoreFault op.Answer
  | .remembered => Bytes
  | .trace _ | .cancel | .setDepth _ | .setTracing _ | .note _ | .remember _ => Unit

/-- A tree of requests that ends with a value of type `α` or by a panic. -/
inductive Program : Type → Type 1 where
  | done {α : Type} (value : α) : Program α
  /-- A panic, with its message if it has one. -/
  | panic {α : Type} (message : Option String) : Program α
  | ask {α : Type} (query : Query) (next : query.Reply → Program α) : Program α
  /-- A part in which a panic is caught. -/
  | guarded {α β : Type} (body : Program (Except Failure β))
      (next : Except Failure β → Program α) : Program α

namespace Program

/-- A program that goes on after another one. -/
def bind {α β : Type} (p : Program α) (f : α → Program β) : Program β :=
  match p with
  | done value => f value
  | panic message => panic message
  | ask query next => ask query fun reply => (next reply).bind f
  | guarded body next => guarded body fun answer => (next answer).bind f

instance : Monad Program where
  pure := done
  bind := bind

theorem bind_done {α : Type} (p : Program α) : p.bind done = p := by
  induction p with
  | done => rfl
  | panic => rfl
  | ask query next ih => exact congrArg (ask query) (funext ih)
  | guarded body next _ ih => exact congrArg (guarded body) (funext ih)

theorem bind_assoc {α β γ : Type} (p : Program α) (f : α → Program β) (g : β → Program γ) :
    (p.bind f).bind g = p.bind fun a => (f a).bind g := by
  induction p with
  | done => rfl
  | panic => rfl
  | ask query next ih => exact congrArg (ask query) (funext fun reply => ih reply f)
  | guarded body next _ ih => exact congrArg (guarded body) (funext fun answer => ih answer f)

instance : LawfulMonad Program :=
  LawfulMonad.mk' Program bind_done (fun _ _ => rfl) bind_assoc

/-- A request, and its reply as the result. -/
def request (query : Query) : Program query.Reply :=
  ask query done

/-- The answer of a body in which a panic is caught. -/
def guard {β : Type} (body : Program (Except Failure β)) : Program (Except Failure β) :=
  guarded body done

/-- The operations of a procedure, one after the other. -/
def ofProcedure {α : Type} (p : Procedure α) : Program (Except StoreFault α) :=
  match p with
  | .done answer => done answer
  | .ask op next => ask (.store op) fun answer => ofProcedure (next answer)

end Program

/-- How the program of a frame ended: with an output or a failure, and the gas that is left. -/
structure FrameEnd where
  result : Except Failure Bytes
  gasLeft : UInt64

/-- The output of a frame, which is empty if it failed. -/
def FrameEnd.output (ended : FrameEnd) : Bytes :=
  match ended.result with
  | .ok output => output
  | .error _ => []

/-- Turns a frame and its input into the program of that frame. -/
abbrev Interpreter := Frame → Bytes → Program FrameEnd

/-- The interpreter under which every code returns nothing and costs nothing. -/
def Interpreter.idle : Interpreter :=
  fun frame _ => .done { result := .ok [], gasLeft := frame.gasRemaining }

end CallWatch
