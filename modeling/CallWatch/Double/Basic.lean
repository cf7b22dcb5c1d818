/-!
# Double precision

The magnitudes of double precision are counted in units of `2 ^ -1074`, the least of them above
zero: a magnitude is a number of units that has at most 53 significant binary digits and is less
than `Double.limit`.  A computation is exact up to its last step, which takes the nearest magnitude
and, half way between two, the one whose last binary digit is zero (`Double.nearest`).
-/

namespace CallWatch

/-- A finite number of double precision. -/
structure Double where
  isNegative : Bool
  /-- The number without its sign, in units of `2 ^ -1074`. -/
  units : Nat
  deriving DecidableEq, Repr

namespace Double

/-- The units of the number one. -/
def one : Nat :=
  Nat.pow 2 1074

/-- The units of the first power of two that is out of range. -/
def limit : Nat :=
  Nat.pow 2 1024 * one

/-- The distance from a magnitude to the next greater one. -/
def spacing (n : Nat) : Nat :=
  Nat.pow 2 (n.log2 - 52)

/-- The magnitude nearest to the quotient of two numbers of units.  The answer may be out of
range. -/
def nearest (num den : Nat) : Nat :=
  -- what the division by `den` cuts off is less than one unit, so the spacing is the right one
  let step := spacing (num / den)
  let count := num / (den * step)
  let rest := num % (den * step)
  let isNear := 2 * rest < den * step ∨ 2 * rest = den * step ∧ count % 2 = 0
  (if isNear then count else count + 1) * step

/-- The magnitude nearest to `n * 10 ^ e`. -/
def ofDecimal (n : Nat) (e : Int) : Nat :=
  nearest (n * Nat.pow 10 e.toNat * one) (Nat.pow 10 (-e).toNat)

/-- The rounded product of two magnitudes. -/
def product (a b : Nat) : Nat :=
  nearest (a * b) one

/-- The rounded quotient of two magnitudes. -/
def quotient (a b : Nat) : Nat :=
  nearest (a * one) b

end Double

end CallWatch
