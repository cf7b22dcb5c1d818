import CallWatch.Checked

/-!
# Call frames

A frame is one call on its way: who calls, whose account it acts on, where its code comes from and
what it may spend.  The account and the origin of the code differ where an account runs the code
of another one as its own.
-/

namespace CallWatch

/-- A call frame. -/
structure Frame where
  caller : Address
  /-- The account that the frame acts on. -/
  account : Address
  /-- The account that the code was taken from. -/
  codeAddress : Address
  code : Bytes
  value : Word
  calldata : Bytes
  gasLimit : UInt64
  gasRemaining : UInt64
  /-- Whether the frame runs foreign code with the sender and the value of the frame before it. -/
  isDelegate : Bool := false
  /-- How many frames it is nested in. -/
  depth : UInt64
  deriving DecidableEq, Repr

namespace Frame

/-- The frame as a delegate of `parent`: it takes over the parent's sender and value. -/
def asDelegate (frame parent : Frame) : Frame :=
  { frame with caller := parent.caller, value := parent.value, isDelegate := true }

/-- The frame after paying for `gas`, if it can. -/
def charge? (frame : Frame) (gas : UInt64) : Option Frame :=
  (Checked.sub frame.gasRemaining gas).map fun left => { frame with gasRemaining := left }

/-- The frame with all its gas spent. -/
def spent (frame : Frame) : Frame :=
  { frame with gasRemaining := 0 }

end Frame

end CallWatch
