import CallWatch.CallLog
import CallWatch.Chain
import CallWatch.Machine.Config
import CallWatch.Machine.Environment
import CallWatch.Precompile
import CallWatch.Program
import CallWatch.Watch.Pair

/-!
# Machines

A `Host` is what stays fixed while a machine runs; a `Machine` is what changes.  `Run φ α` is a
computation that changes a machine and ends with a value or with a `Stop`: a failure, a panic, or
the end of the nesting that it was allowed.

The changes made before a stop stay; undoing some of them is up to `undoOnFailure` and `guarded`.
-/

namespace CallWatch

/-- What stays fixed while a machine runs. -/
structure Host : Type 1 where
  env : Environment := {}
  rules : Rules
  config : MachineConfig := {}
  precompiles : PrecompileSet := .standard
  /-- The watchdogs that are told of storage writes, trace lines and failing frames. -/
  watchers : List WatchKind := [.general, .tracer]
  interpreter : Interpreter

/-- What changes while a machine runs, over a store whose faults follow the model `φ`. -/
structure Machine (φ : Type) where
  store : Store φ
  /-- How many programs are running. -/
  depth : UInt64 := 0
  isCancelled : Bool := false
  pair : WatchPair
  log : CallLog := {}
  /-- What programs noted down, first note first. -/
  notes : Array Note := #[]
  /-- What programs remember from one to the next; no rollback takes it back. -/
  memory : Bytes := []

/-- Why a computation did not end with a value. -/
inductive Stop where
  | failed (failure : Failure)
  | panicked (message : Option String)
  /-- The primitives nested more deeply than was allowed for. -/
  | exhausted
  deriving DecidableEq, Repr

/-- A computation on a machine. -/
def Run (φ α : Type) : Type :=
  Machine φ → Except Stop α × Machine φ

namespace Run

variable {φ α : Type}

instance : Monad (Run φ) where
  pure a := fun m => (.ok a, m)
  bind x f := fun m =>
    match x m with
    | (.ok a, m) => f a m
    | (.error stop, m) => (.error stop, m)

theorem pure_apply (a : α) (m : Machine φ) : (pure a : Run φ α) m = (.ok a, m) := rfl

theorem bind_apply {β : Type} (x : Run φ α) (f : α → Run φ β) (m : Machine φ) :
    (x >>= f) m =
      match x m with
      | (.ok a, m) => f a m
      | (.error stop, m) => (.error stop, m) := rfl

/-- Ends with a stop. -/
def stop (s : Stop) : Run φ α :=
  fun m => (.error s, m)

/-- Ends with a failure. -/
def fail (failure : Failure) : Run φ α :=
  stop (.failed failure)

/-- The value of a result, or a stop with its failure. -/
def ofExcept : Except Failure α → Run φ α
  | .ok a => pure a
  | .error failure => fail failure

/-- The machine as it is. -/
def get : Run φ (Machine φ) :=
  fun m => (.ok m, m)

/-- Changes the machine. -/
def modify (change : Machine φ → Machine φ) : Run φ Unit :=
  fun m => (.ok (), change m)

/-- Changes the machine, with a result. -/
def modifyGet (change : Machine φ → α × Machine φ) : Run φ α := fun m =>
  let (a, m) := change m
  (.ok a, m)

/-- Takes a failure as a result. -/
def attempt (x : Run φ α) : Run φ (Except Failure α) := fun m =>
  match x m with
  | (.ok a, m) => (.ok (.ok a), m)
  | (.error (.failed failure), m) => (.ok (.error failure), m)
  | (.error s, m) => (.error s, m)

/-! ### The store -/

variable [FaultModel φ]

/-- Performs a store operation. -/
def ask (op : StoreOp) : Run φ (Except StoreFault op.Answer) :=
  modifyGet fun m =>
    let (answer, store) := m.store.perform op
    (answer, { m with store })

/-- Performs a store operation; its fault is a failure. -/
def store (op : StoreOp) : Run φ op.Answer := do
  match ← ask op with
  | .ok answer => pure answer
  | .error fault => fail (.store fault)

/-- Performs a procedure; its fault is a failure. -/
def perform (p : Procedure α) : Run φ α := do
  match ← p.run ask with
  | .ok answer => pure answer
  | .error fault => fail (.store fault)

/-- Goes back to a mark if a computation fails. -/
def undoOnFailure (mark : Nat) (x : Run φ α) : Run φ α := do
  match ← attempt x with
  | .ok a => pure a
  | .error failure =>
    -- a revert that fails puts its own failure in the place of the first one
    store (.revert mark)
    fail failure

/-- The wording of a panic without a message. -/
def unknownPanic : String := "unknown panic payload"

/-- Catches a panic: the store goes back to where it was, then the depth, and the panic becomes a
failure. -/
def guarded (x : Run φ α) : Run φ α := do
  let mark ← store .snapshot
  fun m =>
    match x m with
    | (.error (.panicked message), after) =>
      (do
        -- the depth is only put back if the revert goes through
        store (.revert mark)
        modify fun after => { after with depth := m.depth }
        fail (.internal (.panic (message.getD unknownPanic))) : Run φ α) after
    | ended => ended

end Run

/-! ### The watchdogs -/

section

variable {φ : Type}

/-- Tells the watchdogs of a list about the transaction of the environment, if there is one. -/
def Host.tell (host : Host) (change : Word → Watchdog → Watchdog) : Run φ Unit :=
  match host.env.txHash with
  | none => pure ()
  | some hash => .modify fun m => { m with pair := m.pair.tell host.watchers (change hash) }

/-- Writes a trace line. -/
def Host.trace (host : Host) (line : String) : Run φ Unit :=
  host.tell fun hash dog => dog.writeTrace hash line

/-- Records that a slot held `current` and is to hold `value`. -/
def Host.record (host : Host) (key current value : Word) : Run φ Unit :=
  host.tell fun hash dog => (dog.recordStorage hash key current).recordStorage hash key value

/-- Flags that a frame failed. -/
def Host.flagThrow (host : Host) : Run φ Unit :=
  host.tell fun hash dog => dog.flagThrow hash

/-- Enters an event in the call log. -/
def Run.enter (event : CallEvent) : Run φ Unit :=
  .modify fun m => { m with log := m.log.enter event }

/-! ### Storage -/

variable [FaultModel φ]

/-- Reads a storage slot. -/
def Run.loadWord (account : Address) (key : Word) : Run φ Word :=
  .store (.getState account key)

/-- Writes a storage slot.  The watchdogs are told of the value before the write and of the new
one, also if the write then fails. -/
def Host.storeWord (host : Host) (account : Address) (key value : Word) : Run φ Unit := do
  let current ← Run.store (.getState account key)
  host.record key current value
  Run.store (.setState account key value)

end

end CallWatch
