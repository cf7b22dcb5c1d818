import CallWatch.Text.Composition
import CallWatch.Text.Hex
import CallWatch.Url.CodePoints
import CallWatch.Url.Direction
import CallWatch.Url.Joiner
import CallWatch.Url.Punycode

/-!
# Domain names in URLs

A host that is no address of its own is a domain name.  Its percent escapes are resolved, its code
points are replaced, dropped or refused by the tables, and what remains is composed: the plain form
of the name.  Then each label is checked.  A label that claims to be encoded must be the encoding
of text beyond ASCII that is in plain form already, and is checked as that text.

`domain?` is the domain name in its plain form.
-/

namespace CallWatch.Url

/-- The bytes of a text with its percent escapes resolved; a percent sign that starts no escape
stands for itself. -/
def percentDecode : Bytes → Bytes
  | 0x25 :: a :: b :: rest =>
    match Hex.digitValue? (Char.ofNat a.toNat), Hex.digitValue? (Char.ofNat b.toNat) with
    | some high, some low => UInt8.ofNat (16 * high + low) :: percentDecode rest
    | _, _ => 0x25 :: percentDecode (a :: b :: rest)
  | x :: rest => x :: percentDecode rest
  | [] => []

/-- The ASCII characters that no domain name may hold. -/
def isRefusedAscii (c : Char) : Bool :=
  c.toNat ≤ 0x20 || c = '\x7f' || "%#/:<>?@[\\]^|".contains c

/-- Whether a text is plain ASCII. -/
def isAscii (cs : List Char) : Bool :=
  cs.all (·.toNat < 0x80)

/-- The plain form of a text.  A refused sign counts only if it is not part of another character
in the composed form. -/
def plainForm? (cs : List Char) : Option (List Char) := do
  let texts ← cs.mapM plain?
  let plain := Text.composed texts.flatten
  if plain.any isRefusedAscii then none else some plain

/-- The label in front of a dot, and those behind it. -/
def labels : List Char → List (List Char)
  | [] => [[]]
  | '.' :: rest => [] :: labels rest
  | c :: rest =>
    match labels rest with
    | [] => [[c]]
    | label :: others => (c :: label) :: others

/-- The most characters that the encoding of a label may have. -/
def maxEncoded : Nat := 2000

/-- The most characters that a label beyond ASCII may have. -/
def maxLabel : Nat := 1000

/-- The text that a label stands for. -/
def labelText? : List Char → Option (List Char)
  | 'x' :: 'n' :: '-' :: '-' :: encoded => do
    if maxEncoded < encoded.length ∨ !isAscii encoded then none
    let text ← Punycode.decode? encoded
    -- text that could have been written without the encoding must be
    if !isAscii text ∧ plainForm? text = some text then some text else none
  | label => some label

/-- Whether the text of a label may stand in a domain name. -/
def isLabel (text : List Char) : Bool :=
  isAscii text ||
    (!text.head?.any Text.isMark && joinersFit [] text && decide (text.length ≤ maxLabel))

/-- Whether each label runs in one direction, which matters as soon as one of them holds text from
right to left. -/
def directionsFit (texts : List (List Char)) : Bool :=
  let directions := texts.map (·.map Direction.ofChar)
  !directions.any turns || directions.all readsWell

/-- The domain name that a text spells, in its plain form. -/
def domain? (host : List Char) : Option (List Char) := do
  let text ← Text.ofUtf8? (percentDecode (Text.utf8 (String.ofList host)))
  let name ← plainForm? text.toList
  let texts ← (labels name).mapM labelText?
  if texts.all isLabel ∧ directionsFit texts then some name else none

end CallWatch.Url
