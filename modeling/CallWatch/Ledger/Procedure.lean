import CallWatch.Ledger.Faults

/-!
# Store procedures

A `Procedure` is a finite course of store operations, each of which may depend on the answers
before it; it ends with an answer or with a fault.  The rules by which a machine checks and moves
value are procedures, so that they reach the store through the same layer as everything else.
-/

namespace CallWatch

/-- A course of store operations that ends with a value of type `α` or a fault. -/
inductive Procedure (α : Type) : Type 1 where
  | done (answer : Except StoreFault α)
  | ask (op : StoreOp) (next : Except StoreFault op.Answer → Procedure α)

namespace Procedure

/-- One operation; its fault ends the procedure. -/
def perform (op : StoreOp) : Procedure op.Answer :=
  ask op done

/-- A procedure that goes on after another one, unless that ended with a fault. -/
def bind {α β : Type} (p : Procedure α) (f : α → Procedure β) : Procedure β :=
  match p with
  | done (.ok a) => f a
  | done (.error fault) => done (.error fault)
  | ask op next => ask op fun answer => (next answer).bind f

instance : Monad Procedure where
  pure a := done (.ok a)
  bind := bind

/-- The answer of a procedure in any monad that can perform store operations. -/
def run {m : Type → Type} [Monad m] (perform : (op : StoreOp) → m (Except StoreFault op.Answer))
    {α : Type} : Procedure α → m (Except StoreFault α)
  | done answer => pure answer
  | ask op next => do
    let answer ← perform op
    (next answer).run perform

/-! ### Checking and moving value -/

/-- Whether the balance at `a` covers an amount. -/
def covers (a : Address) (amount : Word) : Procedure Bool := do
  let balance ← perform (.getBalance a)
  return decide (amount ≤ balance)

/-- Takes an amount from one balance and adds it to another. -/
def transfer (sender receiver : Address) (amount : Word) : Procedure Unit := do
  perform (.subBalance sender amount)
  perform (.addBalance receiver amount)

end Procedure

/-! ### Calls -/

/-- What can be asked of a store in one go: an operation, or a move of value. -/
inductive StoreCall where
  | op (op : StoreOp)
  | transfer (sender receiver : Address) (amount : Word)
  | covers (a : Address) (amount : Word)
  deriving DecidableEq, Repr

namespace StoreCall

/-- The type of the answer to a call. -/
@[reducible] def Answer : StoreCall → Type
  | op o => o.Answer
  | transfer _ _ _ => Unit
  | covers _ _ => Bool

/-- The procedure behind a call. -/
def procedure : (call : StoreCall) → Procedure call.Answer
  | op o => .perform o
  | transfer sender receiver amount => .transfer sender receiver amount
  | covers a amount => .covers a amount

end StoreCall

/-- Answers a call, unless one of its operations is refused. -/
def Store.call {φ : Type} [FaultModel φ] (s : Store φ) (call : StoreCall) :
    Except StoreFault call.Answer × Store φ :=
  call.procedure.run (m := StateM (Store φ)) (fun op s => s.perform op) s

end CallWatch
