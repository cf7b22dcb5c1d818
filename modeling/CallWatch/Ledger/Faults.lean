import CallWatch.Ledger.Basic

/-!
# Stores that may refuse

A `Store` is a ledger behind a layer that may refuse any call, except the taking of a snapshot,
before it reaches the ledger.  What is refused is decided by a fault model: it sees the kind of
each call and may change from call to call, so refusals can come at any moment.  It also hears of
every fault that the ledger itself answers.

Two models are given: `NoFaults` never refuses, and `FaultPlan` is a list of faults each of which
lets a number of calls of its kind pass first.
-/

namespace CallWatch

/-- How the states `φ` of a fault model answer calls. -/
class FaultModel (φ : Type) where
  /-- Whether the next call of this kind is refused, and the state after it. -/
  next : φ → StoreMethod → Option StoreFault × φ
  /-- The state after a call that the ledger itself answered with a fault. -/
  hear : φ → StoreFault → φ := fun faults _ => faults

/-- The model that never refuses. -/
structure NoFaults where
  deriving DecidableEq, Repr

instance : FaultModel NoFaults where
  next faults _ := (none, faults)

/-- A fault that strikes the calls of one kind after letting some pass. -/
structure Fault where
  method : StoreMethod
  /-- How many calls pass first. -/
  after : Nat := 0
  reason : String := "down"
  /-- Whether it strikes only once. -/
  once : Bool := false
  deriving DecidableEq, Repr

/-- A list of faults, the first of which strikes first. -/
structure FaultPlan where
  faults : List Fault := []
  deriving DecidableEq, Repr

namespace FaultPlan

/-- A call goes past every fault of its kind until one strikes.  Each fault that it passes has one
call less to wait for, and a fault that strikes once is gone. -/
def pass (method : StoreMethod) : List Fault → Option StoreFault × List Fault
  | [] => (none, [])
  | fault :: rest =>
    if fault.method ≠ method then
      let (struck, rest) := pass method rest
      (struck, fault :: rest)
    else if fault.after = 0 then
      (some (.other fault.reason), if fault.once then rest else fault :: rest)
    else
      let (struck, rest) := pass method rest
      (struck, { fault with after := fault.after - 1 } :: rest)

instance : FaultModel FaultPlan where
  next plan method :=
    let (struck, faults) := pass method plan.faults
    (struck, { faults })

end FaultPlan

/-- A ledger and the state of the fault model in front of it. -/
structure Store (φ : Type) where
  ledger : Ledger := {}
  faults : φ

namespace Store

variable {φ : Type} [FaultModel φ]

/-- Answers an operation, unless it is refused. -/
def perform (s : Store φ) (op : StoreOp) : Except StoreFault op.Answer × Store φ :=
  match op.method with
  | none =>
    let (answer, ledger) := s.ledger.perform op
    (answer, { s with ledger })
  | some method =>
    match FaultModel.next s.faults method with
    | (some fault, faults) => (.error fault, { s with faults })
    | (none, faults) =>
      match s.ledger.perform op with
      | (.ok answer, ledger) => (.ok answer, { ledger, faults })
      | (.error fault, ledger) => (.error fault, { ledger, faults := FaultModel.hear faults fault })

end Store

end CallWatch
