import CallWatch.Double.Shortest
import CallWatch.Json.Basic

/-!
# Writing JSON

The text of a value has no blanks.  Inside strings the quote mark, the backslash and the control
characters below the space are escaped, those that have a letter by their letter and the others by
four digits; every other character stands for itself.
-/

namespace CallWatch.Json

/-- The escape of a character that must not stand in a string as it is. -/
def escapeChar (c : Char) : List Char :=
  if c = '"' then ['\\', '"']
  else if c = '\\' then ['\\', '\\']
  else if c = '\x08' then ['\\', 'b']
  else if c = '\x0c' then ['\\', 'f']
  else if c = '\n' then ['\\', 'n']
  else if c = '\r' then ['\\', 'r']
  else if c = '\t' then ['\\', 't']
  else if c.toNat < 0x20 then
    ['\\', 'u', '0', '0', Nat.digitChar (c.toNat / 16), Nat.digitChar (c.toNat % 16)]
  else [c]

/-- A string in quotes. -/
def stringChars (s : String) : List Char :=
  '"' :: s.toList.flatMap escapeChar ++ ['"']

/-- The digits of an integer. -/
def intChars : Int → List Char
  | .ofNat n => Nat.toDigits 10 n
  | .negSucc n => '-' :: Nat.toDigits 10 (n + 1)

mutual

/-- The text of a value. -/
def chars : Json → List Char
  | null => "null".toList
  | bool true => "true".toList
  | bool false => "false".toList
  | number n => intChars n
  | real x => x.chars
  | string s => stringChars s
  | unreadable => "null".toList
  | array items => '[' :: charsItems items ++ [']']
  | object members => '\x7b' :: charsMembers members ++ ['\x7d']

/-- The texts of the items, with commas between them. -/
def charsItems : List Json → List Char
  | [] => []
  | [v] => chars v
  | v :: rest => chars v ++ ',' :: charsItems rest

/-- The texts of the members, with commas between them. -/
def charsMembers : List (String × Json) → List Char
  | [] => []
  | [(name, v)] => stringChars name ++ ':' :: chars v
  | (name, v) :: rest => stringChars name ++ ':' :: chars v ++ ',' :: charsMembers rest

end

/-- The text of a value. -/
def render (v : Json) : String :=
  String.ofList v.chars

end CallWatch.Json
