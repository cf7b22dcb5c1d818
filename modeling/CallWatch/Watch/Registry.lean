import CallWatch.Word
import Std.Data.ExtTreeSet

/-!
# The registry of watched transactions

A transaction is watched at most once.  A `Registry` is the set of the hashes that were claimed;
claiming one again is refused.
-/

namespace CallWatch

/-- The hashes that were claimed. -/
abbrev Registry := Std.ExtTreeSet Word

/-- Claims a hash: whether it was free, and the registry with it. -/
def Registry.claim (registry : Registry) (hash : Word) : Bool × Registry :=
  (!registry.contains hash, registry.insert hash)

end CallWatch
