/-!
# Machine settings
-/

namespace CallWatch

/-- The switches of a machine. -/
structure MachineConfig where
  /-- Only the root frame runs; primitives inside it succeed without doing anything. -/
  noRecursion : Bool := false
  /-- Primitives fail if they are dispatched at a greater depth. -/
  maxCallDepth : UInt64 := 1024
  deriving DecidableEq, Repr

end CallWatch
