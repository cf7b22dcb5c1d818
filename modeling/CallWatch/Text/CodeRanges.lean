/-!
# Ranges of code points

Properties of characters come as tables of ranges in ascending order.  A character has the property
if one of the ranges holds it.
-/

namespace CallWatch

/-- Ranges of code points, each by its first and its last one. -/
abbrev CodeRanges := Array (Nat × Nat)

/-- Whether one of the ranges holds a character. -/
def CodeRanges.holds (ranges : CodeRanges) (c : Char) : Bool :=
  ranges.any fun r => r.1 ≤ c.toNat && c.toNat ≤ r.2

end CallWatch
