import CallWatch.Failure
import CallWatch.Word

/-!
# Outcomes

What a primitive hands back to its caller when it does not fail itself: whether the frame
succeeded, what is left of the gas, and what the code returned.
-/

namespace CallWatch

/-- How a frame or a transaction ended. -/
inductive Result where
  | success
  /-- It failed, and its changes were undone. -/
  | reverted (failure : Failure)
  deriving DecidableEq, Repr

namespace Result

/-- Whether the end was a success. -/
def isSuccess : Result → Bool
  | success => true
  | reverted _ => false

/-- Why it failed, if it did. -/
def failure? : Result → Option Failure
  | success => none
  | reverted failure => some failure

end Result

/-- What a primitive hands back. -/
structure Outcome where
  result : Result
  gasLeft : UInt64
  output : Bytes := []
  /-- The address of the new contract, for creations: zero if it was never derived. -/
  created : Option Address := none
  deriving DecidableEq, Repr

namespace Outcome

/-- The outcome of a call that succeeded. -/
def success (gasLeft : UInt64) (output : Bytes) : Outcome :=
  { result := .success, gasLeft, output }

/-- The outcome of a call that failed. -/
def reverted (failure : Failure) (gasLeft : UInt64) : Outcome :=
  { result := .reverted failure, gasLeft }

end Outcome

end CallWatch
