import CallWatch.Outcome
import CallWatch.Wire.Form

/-!
# Wire forms of failures and results
-/

namespace CallWatch

/-- A store fault by its kind. -/
def StoreFault.form : Form StoreFault where
  write
    | .unknownSnapshot id => .object [("InvalidSnapshot", .number id)]
    | .other reason => Form.carrying "Custom" .text reason
  read? v := do
    match ← Form.alternative? v with
    | ("InvalidSnapshot", some id) => return .unknownSnapshot (← Form.counter.read? id).toNat
    | ("Custom", some reason) => return .other (← Form.text.read? reason)
    | _ => none

/-- An internal fault by its kind. -/
def InternalFault.form : Form InternalFault where
  write
    | .overflow => Form.bare "Overflow"
    | .underflow => Form.bare "Underflow"
    | .panic message => Form.carrying "Panic" .text message
    | .other reason => Form.carrying "Custom" .text reason
  read? v := do
    match ← Form.alternative? v with
    | ("Overflow", content) => Form.bare? .overflow content
    | ("Underflow", content) => Form.bare? .underflow content
    | ("Panic", some message) => return .panic (← Form.text.read? message)
    | ("Custom", some reason) => return .other (← Form.text.read? reason)
    | _ => none

/-- A halt by its kind. -/
def Halt.form : Form Halt where
  write
    | .outOfGas => Form.bare "OutOfGas"
    | .invalidOpcode => Form.bare "InvalidOpcode"
    | .stackUnderflow => Form.bare "StackUnderflow"
    | .stackOverflow => Form.bare "StackOverflow"
    | .cancelled => Form.bare "Cancelled"
    | .precompile reason => Form.carrying "Precompile" .text reason
  read? v := do
    match ← Form.alternative? v with
    | ("OutOfGas", content) => Form.bare? .outOfGas content
    | ("InvalidOpcode", content) => Form.bare? .invalidOpcode content
    | ("StackUnderflow", content) => Form.bare? .stackUnderflow content
    | ("StackOverflow", content) => Form.bare? .stackOverflow content
    | ("Cancelled", content) => Form.bare? .cancelled content
    | ("Precompile", some reason) => return .precompile (← Form.text.read? reason)
    | _ => none

/-- A failure by its kind. -/
def Failure.form : Form Failure where
  write
    | .internal cause => Form.carrying "Internal" InternalFault.form cause
    | .store cause => Form.carrying "Database" StoreFault.form cause
    | .halt cause => Form.carrying "ExceptionalHalt" Halt.form cause
    | .reverted => Form.bare "RevertOpcode"
    | .depthExceeded => Form.bare "DepthExceeded"
    | .insufficientBalance => Form.bare "InsufficientBalance"
    | .codeStoreOutOfGas => Form.bare "CodeStoreOutOfGas"
  read? v := do
    match ← Form.alternative? v with
    | ("Internal", some cause) => return .internal (← InternalFault.form.read? cause)
    | ("Database", some cause) => return .store (← StoreFault.form.read? cause)
    | ("ExceptionalHalt", some cause) => return .halt (← Halt.form.read? cause)
    | ("RevertOpcode", content) => Form.bare? .reverted content
    | ("DepthExceeded", content) => Form.bare? .depthExceeded content
    | ("InsufficientBalance", content) => Form.bare? .insufficientBalance content
    | ("CodeStoreOutOfGas", content) => Form.bare? .codeStoreOutOfGas content
    | _ => none

/-- A result by its kind. -/
def Result.form : Form Result where
  write
    | .success => Form.bare "Success"
    | .reverted failure => Form.carrying "Revert" Failure.form failure
  read? v := do
    match ← Form.alternative? v with
    | ("Success", content) => Form.bare? .success content
    | ("Revert", some failure) => return .reverted (← Failure.form.read? failure)
    | _ => none

end CallWatch
