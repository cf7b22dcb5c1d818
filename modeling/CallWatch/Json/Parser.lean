import CallWatch.Json.Numeral
import CallWatch.Text.Hex

/-!
# Reading JSON

`Json.parse?` reads a whole text as one value, with blanks around its tokens.  A string is first
split into code units, where an escape may give half of a surrogate pair; `ofUnits?` joins the
halves.  A string with a half that stands alone is read as `Json.unreadable`, so that a reader who
skips it need not mind.
-/

namespace CallWatch.Json

/-- The text behind its leading blanks. -/
def skipBlanks (cs : List Char) : List Char :=
  cs.dropWhile fun c => c = ' ' ∨ c = '\n' ∨ c = '\t' ∨ c = '\r'

/-! ### Strings -/

/-- The code unit of a four-digit escape. -/
def unitOfDigits? (a b c d : Char) : Option Nat :=
  Hex.number? [a, b, c, d]

/-- The character of a one-letter escape. -/
def escaped? : Char → Option Char
  | '"' => some '"'
  | '\\' => some '\\'
  | '/' => some '/'
  | 'b' => some '\x08'
  | 'f' => some '\x0c'
  | 'n' => some '\n'
  | 'r' => some '\r'
  | 't' => some '\t'
  | _ => none

/-- The code units up to the closing quote, and the text behind it. -/
def units? : List Char → Option (List Nat × List Char)
  | [] => none
  | '"' :: rest => some ([], rest)
  | '\\' :: 'u' :: a :: b :: c :: d :: rest => do
    let unit ← unitOfDigits? a b c d
    let (units, rest) ← units? rest
    return (unit :: units, rest)
  | '\\' :: letter :: rest => do
    let c ← escaped? letter
    let (units, rest) ← units? rest
    return (c.toNat :: units, rest)
  | c :: rest =>
    -- control characters need an escape; a backslash here starts none
    if c.toNat < 0x20 ∨ c = '\\' then none
    else do
      let (units, rest) ← units? rest
      return (c.toNat :: units, rest)

/-- The characters of code units, unless a half of a surrogate pair stands alone. -/
def ofUnits? : List Nat → Option (List Char)
  | [] => some []
  | [unit] => if 0xD800 ≤ unit ∧ unit < 0xE000 then none else some [Char.ofNat unit]
  | high :: low :: rest =>
    if 0xD800 ≤ high ∧ high < 0xDC00 then
      if 0xDC00 ≤ low ∧ low < 0xE000 then
        (ofUnits? rest).map
          (Char.ofNat (0x10000 + 0x400 * (high - 0xD800) + (low - 0xDC00)) :: ·)
      else none
    else if 0xDC00 ≤ high ∧ high < 0xE000 then none
    else (ofUnits? (low :: rest)).map (Char.ofNat high :: ·)

/-- A string behind its opening quote: its text, if it has one, and the text behind it. -/
def string? (cs : List Char) : Option (Option String × List Char) := do
  let (units, rest) ← units? cs
  return ((ofUnits? units).map String.ofList, rest)

/-! ### Values -/

mutual

/-- A value at the head of the text, and the text behind it. -/
def value? : (fuel : Nat) → List Char → Option (Json × List Char)
  | 0, _ => none
  | _ + 1, 'n' :: 'u' :: 'l' :: 'l' :: rest => some (null, rest)
  | _ + 1, 't' :: 'r' :: 'u' :: 'e' :: rest => some (bool true, rest)
  | _ + 1, 'f' :: 'a' :: 'l' :: 's' :: 'e' :: rest => some (bool false, rest)
  | _ + 1, '"' :: rest => do
    let (s, rest) ← string? rest
    return (s.elim unreadable string, rest)
  | fuel + 1, '[' :: rest =>
    match skipBlanks rest with
    | ']' :: rest => some (array [], rest)
    | rest => do
      let (items, rest) ← items? fuel rest
      return (array items, rest)
  | fuel + 1, '\x7b' :: rest =>
    match skipBlanks rest with
    | '\x7d' :: rest => some (object [], rest)
    | rest => do
      let (members, rest) ← members? fuel rest
      return (members.elim unreadable object, rest)
  | _ + 1, cs => number? cs

/-- At least one item, up to the closing bracket, and the text behind it. -/
def items? : (fuel : Nat) → List Char → Option (List Json × List Char)
  | 0, _ => none
  | fuel + 1, cs => do
    let (v, rest) ← value? fuel cs
    match skipBlanks rest with
    | ']' :: rest => return ([v], rest)
    | ',' :: rest =>
      let (items, rest) ← items? fuel (skipBlanks rest)
      return (v :: items, rest)
    | _ => none

/-- At least one member, up to the closing brace, and the text behind it; no members if one of the
names is unreadable. -/
def members? : (fuel : Nat) → List Char → Option (Option (List (String × Json)) × List Char)
  | 0, _ => none
  | fuel + 1, '"' :: cs => do
    let (name, rest) ← string? cs
    match skipBlanks rest with
    | ':' :: rest =>
      let (v, rest) ← value? fuel (skipBlanks rest)
      match skipBlanks rest with
      | '\x7d' :: rest => return (name.map fun name => [(name, v)], rest)
      | ',' :: rest =>
        let (members, rest) ← members? fuel (skipBlanks rest)
        return (do return (← name, v) :: (← members), rest)
      | _ => none
    | _ => none
  | _ + 1, _ => none

end

/-- The value that a text says.  Every step of the reading consumes a character or enters one that
does, so twice the length of the text bounds the number of nested steps. -/
def parse? (s : String) : Option Json :=
  let cs := s.toList
  match value? (2 * cs.length + 1) (skipBlanks cs) with
  | some (v, rest) => if (skipBlanks rest).isEmpty then some v else none
  | none => none

end CallWatch.Json
