import CallWatch.Text.Hex
import CallWatch.Text.Unprintable

/-!
# Quoted text

Texts that are shown inside a message stand in quotes, with the quote mark, the backslash and the
common control characters escaped by a backslash and every other character that has no glyph of
its own as `\u{…}`.  Single characters stand in single quotes, whole texts in double quotes; each
escapes only its own kind of quote.
-/

namespace CallWatch.Text

/-- A character inside a quotation that `mark` opens and closes. -/
def escape (mark c : Char) : List Char :=
  if c = '\x00' then ['\\', '0']
  else if c = '\t' then ['\\', 't']
  else if c = '\r' then ['\\', 'r']
  else if c = '\n' then ['\\', 'n']
  else if c = '\\' ∨ c = mark then ['\\', c]
  else if isUnprintable c then
    '\\' :: 'u' :: '\x7b' :: Nat.toDigits 16 c.toNat ++ ['\x7d']
  else [c]

/-- A character in single quotes. -/
def quoteChar (c : Char) : String :=
  String.ofList ('\'' :: escape '\'' c ++ ['\''])

/-- A text in double quotes. -/
def quote (s : String) : String :=
  String.ofList ('"' :: s.toList.flatMap (escape '"') ++ ['"'])

end CallWatch.Text

namespace CallWatch.Hex

/-- The wording of a refusal: a bad byte is shown as the character of that number. -/
def DecodeError.message : DecodeError → String
  | .oddLength => "Odd number of digits"
  | .invalidByte b position =>
    "Invalid character " ++ Text.quoteChar (Char.ofNat b.toNat) ++ " at position "
      ++ toString position

end CallWatch.Hex
