import CallWatch.Double.Basic

/-!
# Numbers of double precision as text

A number is written with the fewest decimal digits that read back as it, and of those with the ones
nearest to it (`Double.shortest`).  The digits stand around a point as long as the number is at
least `10 ^ -5` and less than `10 ^ 16`; otherwise one digit stands in front of the point, and a
power of ten follows.
-/

namespace CallWatch.Double

/-- The exponent of the greatest power of ten that is at most the magnitude `n`. -/
def decimalExponent (n : Nat) : Int :=
  if one ≤ n then (Nat.toDigits 10 (n / one)).length - 1
  else -(Nat.toDigits 10 ((one - 1) / n)).length

/-- The two multiples of `10 ^ e` on either side of the magnitude `n`, the nearer one first; half
way, the even one. -/
def neighbours (n : Nat) (e : Int) : List Nat :=
  let num := n * Nat.pow 10 (-e).toNat
  let den := one * Nat.pow 10 e.toNat
  let below := num / den
  let rest := num % den
  if 2 * rest < den ∨ 2 * rest = den ∧ below % 2 = 0 then [below, below + 1]
  else [below + 1, below]

/-- The decimal number `n * 10 ^ e` of fewest digits that rounds to a positive magnitude.
Seventeen digits are always enough. -/
def shortest (units : Nat) : Nat × Int :=
  let top := decimalExponent units
  let found := (List.range 17).findSome? fun (more : Nat) =>
    let e := top - more
    ((neighbours units e).find? fun n => ofDecimal n e = units).map (·, e)
  match found with
  -- the upper neighbour of a nine is a one at the next place
  | some (10, e) => (1, e + 1)
  | some (n, e) => (n, e)
  | none => (0, 0)

/-- The digits of a positive magnitude around a point, or with a power of ten. -/
def magnitudeChars (units : Nat) : List Char :=
  let (n, e) := shortest units
  let digits := Nat.toDigits 10 n
  let exponent := e + digits.length - 1
  if exponent < -5 ∨ 15 < exponent then
    let power := (if exponent < 0 then '-' else '+') :: Nat.toDigits 10 exponent.natAbs
    match digits with
    | [d] => d :: 'e' :: power
    | digits => digits.take 1 ++ '.' :: digits.drop 1 ++ 'e' :: power
  else if 0 ≤ e then digits ++ List.replicate e.toNat '0' ++ ['.', '0']
  else if 0 ≤ exponent then
    let whole := exponent.toNat + 1
    digits.take whole ++ '.' :: digits.drop whole
  else '0' :: '.' :: List.replicate (-exponent - 1).toNat '0' ++ digits

/-- The text of a number; zero has a sign as well. -/
def chars (x : Double) : List Char :=
  (if x.isNegative then ['-'] else []) ++
    if x.units = 0 then ['0', '.', '0'] else magnitudeChars x.units

end CallWatch.Double
