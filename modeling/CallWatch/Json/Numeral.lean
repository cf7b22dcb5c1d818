import CallWatch.Double.Basic
import CallWatch.Json.Basic

/-!
# Numbers in JSON

A number without fraction and exponent that fits 64 bits is an exact integer.  Any other number has
double precision.  Of its digits as many count as fit 64 bits; they are rounded and then multiplied
with a rounded power of ten, or divided by one, which rounds again.  A number out of range is
`Json.unreadable`; one too small to tell from zero is zero.
-/

namespace CallWatch.Json

/-! ### Parts of a number -/

/-- The longest run of digits, and the text behind it. -/
def spanDigits (cs : List Char) : List Char × List Char :=
  (cs.takeWhile Char.isDigit, cs.dropWhile Char.isDigit)

/-- The digits of a whole number without leading zeros, and the text behind them. -/
def whole? (cs : List Char) : Option (List Char × List Char) :=
  match spanDigits cs with
  | ([], _) => none
  | ('0' :: _ :: _, _) => none
  | (digits, rest) => some (digits, rest)

/-- The digits behind a point, none if there is no point, and the text behind them. -/
def fraction? : List Char → Option (List Char × List Char)
  | '.' :: cs =>
    match spanDigits cs with
    | ([], _) => none
    | (digits, rest) => some (digits, rest)
  | cs => some ([], cs)

/-- The number that decimal digits spell. -/
def natOfDigits (digits : List Char) : Nat :=
  digits.foldl (fun n c => 10 * n + (c.toNat - '0'.toNat)) 0

/-- An exponent, if there is one, and the text behind it. -/
def exponent? : List Char → Option (Option Int × List Char)
  | [] => some (none, [])
  | e :: cs =>
    if e = 'e' ∨ e = 'E' then
      let (isNegative, cs) := match cs with
        | '+' :: cs => (false, cs)
        | '-' :: cs => (true, cs)
        | cs => (false, cs)
      match spanDigits cs with
      | ([], _) => none
      | (digits, rest) =>
        let n : Int := natOfDigits digits
        some (some (if isNegative then -n else n), rest)
    else some (none, e :: cs)

/-! ### Double precision -/

/-- Goes on from the number `n` with as many digits as fit 64 bits, and counts the others. -/
def leading (n : Nat) : List Char → Nat × Nat
  | [] => (n, 0)
  | c :: cs =>
    let next := 10 * n + (c.toNat - '0'.toNat)
    if next < Nat.pow 2 64 then leading next cs else (n, cs.length + 1)

/-- A power of ten that stands in the range of double precision. -/
def tenPower (e : Nat) : Nat :=
  Double.ofDecimal 1 e

/-- The magnitude that `n * 10 ^ e` is taken for, if it is in range.  The greatest power of ten in
range has the exponent 308, so it takes two divisions to reach the smallest numbers. -/
def magnitude? (n : Nat) (e : Int) : Option Nat :=
  let units := Double.ofDecimal n 0
  let shrink := (-e).toNat
  if n = 0 then some 0
  else if 308 < e then none
  else if 0 ≤ e then
    let units := Double.product units (tenPower e.toNat)
    if units < Double.limit then some units else none
  -- a greater shrink than 308 is spread over two powers, and beyond 616 nothing is left
  else if shrink ≤ 308 then some (Double.quotient units (tenPower shrink))
  else if shrink ≤ 616 then
    some (Double.quotient (Double.quotient units (tenPower 308)) (tenPower (shrink - 308)))
  else some 0

/-- The magnitude of a number from the digits in front of the point, those behind it, and the
exponent. -/
def measure? (whole fraction : List Char) (exponent : Int) : Option Nat :=
  -- digits that do not count raise the exponent in front of the point; behind it they are dropped
  let (n, left) := leading 0 whole
  let (n, unused) := leading n fraction
  magnitude? n (exponent + left - (fraction.length - unused : Nat))

/-- The value of a number from its parts.  Zero has a sign only in double precision. -/
def ofNumeral (isNegative : Bool) (whole fraction : List Char) (exponent? : Option Int) : Json :=
  let (n, left) := leading 0 whole
  let isWhole := left = 0 ∧ fraction.isEmpty ∧ exponent?.isNone
  if isWhole ∧ !isNegative then number n
  else if isWhole ∧ 0 < n ∧ n ≤ Nat.pow 2 63 then number (-(n : Int))
  else (measure? whole fraction (exponent?.getD 0)).elim unreadable fun units =>
    real ⟨isNegative, units⟩

/-- A number and the text behind it. -/
def number? (cs : List Char) : Option (Json × List Char) := do
  let (isNegative, cs) := match cs with
    | '-' :: cs => (true, cs)
    | cs => (false, cs)
  let (whole, cs) ← whole? cs
  let (fraction, cs) ← fraction? cs
  let (exponent?, cs) ← exponent? cs
  return (ofNumeral isNegative whole fraction exponent?, cs)

end CallWatch.Json
