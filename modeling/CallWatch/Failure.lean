/-!
# Failures

Why a call, a store operation or a frame fails.  `Failure.propagates` splits them in two: failures
of the store and of the machine itself leave every primitive as an error, all others end their
frame, whose changes are undone, and come back as the result of a call.

Every failure is worded in one place, `Failure.message`.
-/

namespace CallWatch

/-- Why a store operation is refused. -/
inductive StoreFault where
  /-- No snapshot has this number. -/
  | unknownSnapshot (id : Nat)
  /-- Any other reason, in words. -/
  | other (reason : String)
  deriving DecidableEq, Repr

/-- Why the machine itself cannot go on. -/
inductive InternalFault where
  /-- A counter would leave its range. -/
  | overflow
  /-- A counter would become negative. -/
  | underflow
  /-- A program panicked, with this message. -/
  | panic (message : String)
  /-- Any other reason, in words. -/
  | other (reason : String)
  deriving DecidableEq, Repr

/-- Why the code of a frame stops. -/
inductive Halt where
  | outOfGas
  | invalidOpcode
  | stackUnderflow
  | stackOverflow
  /-- The cancellation flag was set. -/
  | cancelled
  /-- A built-in contract failed. -/
  | precompile (reason : String)
  deriving DecidableEq, Repr

/-- Why a call fails. -/
inductive Failure where
  | internal (cause : InternalFault)
  | store (cause : StoreFault)
  | halt (cause : Halt)
  /-- The code asked for its changes to be undone. -/
  | reverted
  /-- The call would nest too deeply. -/
  | depthExceeded
  /-- The caller cannot afford the value. -/
  | insufficientBalance
  /-- A creation cannot pay for the code it returns. -/
  | codeStoreOutOfGas
  deriving DecidableEq, Repr

/-- The wording of a store fault. -/
def StoreFault.message : StoreFault → String
  | .unknownSnapshot id => "Snapshot " ++ toString id ++ " does not exist"
  | .other reason => reason

/-- The wording of an internal fault. -/
def InternalFault.message : InternalFault → String
  | .overflow => "Arithmetic operation overflowed"
  | .underflow => "Arithmetic operation underflowed"
  | .panic message => "Execution panicked: " ++ message
  | .other reason => reason

/-- The wording of a halt. -/
def Halt.message : Halt → String
  | .outOfGas => "Out Of Gas"
  | .invalidOpcode => "Invalid Opcode"
  | .stackUnderflow => "Stack Underflow"
  | .stackOverflow => "Stack Overflow"
  | .cancelled => "Execution cancelled"
  | .precompile reason => "Precompile execution error: " ++ reason

namespace Failure

/-- The wording of a failure. -/
def message : Failure → String
  | .internal cause => "Internal Error: " ++ cause.message
  | .store cause => "Database Error: " ++ cause.message
  | .halt cause => "Exceptional Halt: " ++ cause.message
  | .reverted => "Revert Opcode"
  | .depthExceeded => "Max call depth exceeded"
  | .insufficientBalance => "Insufficient balance for transfer"
  | .codeStoreOutOfGas => "Contract creation code storage out of gas"

/-- Whether the failure leaves a primitive as an error instead of ending its frame. -/
def propagates : Failure → Bool
  | .internal _ | .store _ => true
  | _ => false

/-- The failure of a frame that cannot pay. -/
abbrev outOfGas : Failure := .halt .outOfGas

end Failure

end CallWatch
