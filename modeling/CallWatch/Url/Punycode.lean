/-!
# Punycode

The encoding of text beyond ASCII in the letters, digits and hyphens of a domain label.  In front
of the last hyphen stand the ASCII characters; behind it, a chain of numbers says which characters
are put in and where.  Each number is a run of digits in base 36, the last of which is below a
threshold that depends on its place and on the numbers before.

`Punycode.decode?` is the text that an encoding stands for.
-/

namespace CallWatch.Url.Punycode

/-- The value of a digit: letters first, then the ten digits. -/
def digitValue? (c : Char) : Option Nat :=
  if c.isLower then some (c.toNat - 'a'.toNat)
  else if c.isDigit then some (c.toNat - '0'.toNat + 26)
  else none

/-- Divides a distance until it is small, counting the digits that this saves. -/
def shrink : (fuel : Nat) → (delta k : Nat) → Nat × Nat
  | 0, delta, k => (delta, k)
  | fuel + 1, delta, k => if 455 < delta then shrink fuel (delta / 35) (k + 36) else (delta, k)

/-- The bias for the next number, after one that moved on by `delta` in a text that now has
`count` characters. -/
def adapt (delta count : Nat) (isFirst : Bool) : Nat :=
  let delta := if isFirst then delta / 700 else delta / 2
  let (delta, k) := shrink 32 (delta + delta / count) 0
  k + 36 * delta / (delta + 38)

/-- The threshold of the digit at place `k`. -/
def threshold (k bias : Nat) : Nat :=
  if k ≤ bias then 1 else if bias + 26 ≤ k then 26 else k - bias

/-- What is known between two digits. -/
structure State where
  /-- The characters so far. -/
  out : List Char
  /-- The last code point that was put in. -/
  codePoint : Nat := 128
  bias : Nat := 72
  /-- Where the last number led to, and where the present one leads so far. -/
  start : Nat := 0
  place : Nat := 0
  /-- The weight and the place of the next digit. -/
  weight : Nat := 1
  k : Nat := 36

/-- The largest number that a decoder handles. -/
def limit : Nat := Nat.pow 2 32

/-- Puts in a character, at the end of a number. -/
def State.insert? (s : State) : Option State :=
  let count := s.out.length + 1
  let codePoint := s.codePoint + s.place / count
  let spot := s.place % count
  if codePoint < 0xD800 ∨ 0xE000 ≤ codePoint ∧ codePoint < 0x110000 then
    some {
      out := s.out.take spot ++ Char.ofNat codePoint :: s.out.drop spot
      codePoint
      bias := adapt (s.place - s.start) count (s.start = 0)
      start := spot + 1
      place := spot + 1 }
  else none

/-- Takes a digit. -/
def State.step? (s : State) (c : Char) : Option State := do
  let digit ← digitValue? c
  let place := s.place + digit * s.weight
  if limit ≤ place then none
  let s := { s with place }
  let t := threshold s.k s.bias
  if digit < t then s.insert?
  else if limit ≤ s.weight * (36 - t) then none
  else some { s with weight := s.weight * (36 - t), k := s.k + 36 }

/-- The part in front of the last hyphen and the part behind it; a hyphen that stands first does
not count. -/
def splitLast (cs : List Char) : List Char × List Char :=
  let behind := (cs.reverse.takeWhile (· ≠ '-')).reverse
  let front := cs.take (cs.length - behind.length - 1)
  if front.isEmpty then ([], cs) else (front, behind)

/-- The text that an encoding stands for. -/
def decode? (cs : List Char) : Option (List Char) := do
  let (front, behind) := splitLast cs
  let s ← behind.foldlM State.step? { out := front }
  -- a number that is not over yet has moved on to a later digit
  if s.k = 36 then some s.out else none

end CallWatch.Url.Punycode
