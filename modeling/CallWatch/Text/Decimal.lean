import CallWatch.Text.Utf8

/-!
# Decimal text of words

A word is written with its decimal digits and read from any number of them, leading zeros
included; the empty text is zero.  Reading goes from left to right and stops at the first digit
that is none or that takes the number out of range.
-/

namespace CallWatch.Decimal

/-- Why a text is no word. -/
inductive DecodeError where
  /-- A byte of the text is no digit. -/
  | notDigit
  /-- The number does not fit 256 bits. -/
  | tooLarge
  deriving DecidableEq, Repr

/-- The wording of a refusal. -/
def DecodeError.message : DecodeError → String
  | .notDigit => "a character is not in the range 0-9"
  | .tooLarge => "the number is too large for the type"

/-- The value of a digit. -/
def digitValue? (c : Char) : Option Nat :=
  if c.isDigit then some (c.toNat - '0'.toNat) else none

/-- Reads one more digit behind the number `n`. -/
def step (n : Nat) (c : Char) : Except DecodeError Nat :=
  match digitValue? c with
  | none => .error .notDigit
  | some d => if 10 * n + d < Nat.pow 2 256 then .ok (10 * n + d) else .error .tooLarge

/-- The word that a text spells. -/
def decode (s : String) : Except DecodeError Word :=
  (s.toList.foldlM step 0).map (BitVec.ofNat 256)

/-- The decimal digits of a number. -/
def digits (n : Nat) : List Char :=
  Nat.toDigits 10 n

/-- A word as text. -/
def encode (w : Word) : String :=
  String.ofList (digits w.toNat)

end CallWatch.Decimal
