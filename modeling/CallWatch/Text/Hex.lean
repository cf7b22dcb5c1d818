import CallWatch.Text.Utf8

/-!
# Hexadecimal text

Byte strings, addresses and words are shown as `0x` followed by lowercase digits.  Three readers
accept such text:

* `Hex.decode` for byte strings of any length.  Every leading `0x` is dropped, then the rest must
  be an even number of digits in either case; a refusal says why (`Hex.DecodeError`).
* `Hex.fixed?` for texts of a fixed number of digits, after at most one `0x`.
* `Hex.quantity?` for numbers of at most 64 digits, after at most one `0x`.

In the last two a blank may stand in the place of any digit.  It says nothing, so that a text with
blanks has digits for fewer bytes than it has room for.
-/

namespace CallWatch.Hex

/-! ### Writing -/

/-- The two digits of a byte. -/
def ofByte (b : UInt8) : List Char :=
  [Nat.digitChar (b.toNat / 16), Nat.digitChar (b.toNat % 16)]

/-- The digits of a byte string. -/
def digits (b : Bytes) : List Char :=
  b.flatMap ofByte

/-- A byte string as text: `0x` and its digits. -/
def encode (b : Bytes) : String :=
  String.ofList ('0' :: 'x' :: digits b)

/-- A number as text: `0x` and its digits without leading zeros. -/
def quantity (n : Nat) : String :=
  String.ofList ('0' :: 'x' :: Nat.toDigits 16 n)

/-! ### Reading -/

/-- The value of a digit, in either case. -/
def digitValue? (c : Char) : Option Nat :=
  if '0' ≤ c ∧ c ≤ '9' then some (c.toNat - '0'.toNat)
  else if 'a' ≤ c ∧ c ≤ 'f' then some (c.toNat - 'a'.toNat + 10)
  else if 'A' ≤ c ∧ c ≤ 'F' then some (c.toNat - 'A'.toNat + 10)
  else none

/-- The number with these digits. -/
def ofDigits (ds : List Nat) : Nat :=
  ds.foldl (16 * · + ·) 0

/-- The number that a text spells, if it has digits only. -/
def number? (cs : List Char) : Option Nat :=
  (cs.mapM digitValue?).map ofDigits

/-- The text without a leading `0x`. -/
def dropPrefix : List Char → List Char
  | '0' :: 'x' :: rest => rest
  | cs => cs

/-- Whether a character is a blank. -/
def isBlank (c : Char) : Bool :=
  c = ' ' || c = '\t' || c = '\n' || c = '\r'

/-- The digits of a text apart from its blanks, if it has nothing else.  Two digits make a byte, and
only whole bytes count: with an odd number of blanks there is no room for the last digit. -/
def spacedDigits? (cs : List Char) : Option (List Nat) := do
  let ds ← (cs.filter (!isBlank ·)).mapM digitValue?
  return if cs.countP isBlank % 2 = 1 then ds.dropLast else ds

/-- The number spelled by a text of exactly `count` digits and blanks.  The digits take the first
places; the places that are left over at the end are zeros. -/
def fixed? (count : Nat) (s : String) : Option Nat := do
  let cs := dropPrefix s.toList
  if cs.length = count then
    let ds ← spacedDigits? cs
    return ofDigits ds * Nat.pow 16 (count - ds.length)
  else none

/-- The number spelled by a text of 1 to 64 digits and blanks. -/
def quantity? (s : String) : Option Nat :=
  let cs := dropPrefix s.toList
  if 0 < cs.length ∧ cs.length ≤ 64 then (spacedDigits? cs).map ofDigits else none

/-- Why a text is no byte string. -/
inductive DecodeError where
  /-- The number of bytes of the text is odd. -/
  | oddLength
  /-- The byte at this position is no digit. -/
  | invalidByte (byte : UInt8) (position : Nat)
  deriving DecidableEq, Repr

/-- The text without any of its leading `0x`. -/
def dropPrefixes : Bytes → Bytes
  | 0x30 :: 0x78 :: rest => dropPrefixes rest
  | b => b

/-- The value of the digit `b`, which stands at `position`. -/
def nibble (b : UInt8) (position : Nat) : Except DecodeError Nat :=
  match digitValue? (Char.ofNat b.toNat) with
  | some n => .ok n
  | none => .error (.invalidByte b position)

/-- The bytes that pairs of digits spell, the first of which stands at `position`. -/
def pairs (position : Nat) : Bytes → Except DecodeError Bytes
  | [] => .ok []
  | [_] => .error .oddLength
  | a :: b :: rest => do
    let high ← nibble a position
    let low ← nibble b (position + 1)
    let bytes ← pairs (position + 2) rest
    return UInt8.ofNat (16 * high + low) :: bytes

/-- The byte string that a text spells.  An odd length is noticed before any bad digit. -/
def decode (s : String) : Except DecodeError Bytes :=
  let text := dropPrefixes (Text.utf8 s)
  if text.length % 2 = 1 then .error .oddLength else pairs 0 text

end CallWatch.Hex

namespace CallWatch

/-- An address as text: `0x` and 40 digits. -/
def Address.toHex (a : Address) : String :=
  Hex.encode a.toBytes

/-- A word as text: `0x` and 64 digits. -/
def Word.toHex (w : Word) : String :=
  Hex.encode w.toBytes

/-- The address spelled by a text of 40 digits and blanks. -/
def Address.ofHex? (s : String) : Option Address :=
  (Hex.fixed? 40 s).map (BitVec.ofNat 160)

/-- The word spelled by a text of 64 digits and blanks. -/
def Word.ofHex? (s : String) : Option Word :=
  (Hex.fixed? 64 s).map (BitVec.ofNat 256)

/-- The word spelled by a text of 1 to 64 digits and blanks. -/
def Word.ofQuantity? (s : String) : Option Word :=
  (Hex.quantity? s).map (BitVec.ofNat 256)

end CallWatch
