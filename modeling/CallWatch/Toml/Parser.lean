import CallWatch.Toml.Scalar

/-!
# Reading TOML

`Toml.parse?` reads a text as a document: line by line, a line being an assignment, a header, or
nothing, and a comment behind any of them.  Arrays may go over several lines, inline tables may
not.  Values nest at most `maxNesting` deep, and a key has at most so many parts.
-/

namespace CallWatch.Toml

/-- How deeply values may nest, and how many parts a key may have. -/
def maxNesting : Nat := 79

/-! ### Keys -/

/-- Whether a character may stand in a key without quotes. -/
def isBare (c : Char) : Bool :=
  c.isAlphanum || c = '_' || c = '-'

/-- A part of a key. -/
def keyPart? : Reader String
  | [] => none
  | c :: rest =>
    if c = '"' ∨ c = '\'' then lineString? (c :: rest)
    else if isBare c then
      some (String.ofList ((c :: rest).takeWhile isBare), (c :: rest).dropWhile isBare)
    else none

/-- The parts of a key with dots between them, and the text behind the blanks that follow. -/
def keyParts? : (fuel : Nat) → Reader (List String)
  | 0, _ => none
  | fuel + 1, cs => do
    let (part, rest) ← keyPart? (skipBlanks cs)
    match skipBlanks rest with
    | '.' :: rest =>
      let (parts, rest) ← keyParts? fuel rest
      return (part :: parts, rest)
    | rest => return ([part], rest)

/-- A key as the path to its table and its last part. -/
def key? : Reader (Path × String) := fun cs => do
  let (parts, rest) ← keyParts? maxNesting cs
  return ((parts.dropLast, ← parts.getLast?), rest)

/-! ### Comments -/

/-- The text behind a comment, if there is one; it ends before the line break. -/
def skipComment? : List Char → Option (List Char)
  | '#' :: rest =>
    let rest := rest.dropWhile isVisible
    if rest.isEmpty ∨ (lineBreak? rest).isSome then some rest else none
  | cs => some cs

/-- The text behind blanks, line breaks and comments. -/
def skipGap? : (fuel : Nat) → List Char → Option (List Char)
  | 0, _ => none
  | fuel + 1, cs => do
    let rest ← skipComment? (skipBlanks cs)
    match lineBreak? rest with
    | some rest => skipGap? fuel rest
    | none => some rest

/-- The text behind the end of a line, where nothing but blanks and a comment may stand. -/
def endLine? (cs : List Char) : Option (List Char) := do
  match ← skipComment? (skipBlanks cs) with
  | [] => return []
  | rest => lineBreak? rest

/-! ### Values -/

mutual

/-- A value. -/
def value? : (fuel room : Nat) → Reader Toml
  | 0, _, _ => none
  | fuel + 1, room, cs =>
    match cs, room with
    | '[' :: rest, room + 1 => do
      let (items, rest) ← items? fuel room rest
      return (array items, rest)
    | '\x7b' :: rest, room + 1 => do
      match skipBlanks rest with
      | '\x7d' :: rest => return (table .inline [], rest)
      | rest =>
        let (assignments, rest) ← assignments? fuel room rest
        return (← inline? assignments, rest)
    | 't' :: 'r' :: 'u' :: 'e' :: rest, _ => some (boolean true, rest)
    | 'f' :: 'a' :: 'l' :: 's' :: 'e' :: rest, _ => some (boolean false, rest)
    | '"' :: rest, _ => (string? ('"' :: rest)).map fun (s, rest) => (string s, rest)
    | '\'' :: rest, _ => (string? ('\'' :: rest)).map fun (s, rest) => (string s, rest)
    | cs, _ => numeral? cs

/-- The items of an array up to its closing bracket, in front of which a comma may stand. -/
def items? : (fuel room : Nat) → Reader (List Toml)
  | 0, _, _ => none
  | fuel + 1, room, cs => do
    match ← skipGap? (cs.length + 1) cs with
    | ']' :: rest => return ([], rest)
    | cs =>
      let (v, rest) ← value? fuel room cs
      match ← skipGap? (rest.length + 1) rest with
      | ']' :: rest => return ([v], rest)
      | ',' :: rest =>
        let (items, rest) ← items? fuel room rest
        return (v :: items, rest)
      | _ => none

/-- The assignments of an inline table up to its closing brace. -/
def assignments? : (fuel room : Nat) → Reader (List (Path × String × Toml))
  | 0, _, _ => none
  | fuel + 1, room, cs => do
    let ((path, key), rest) ← key? cs
    let (v, rest) ← value? fuel room (skipBlanks (← expect? '=' rest))
    match skipBlanks rest with
    | '\x7d' :: rest => return ([(path, key, v)], rest)
    | ',' :: rest =>
      let (assignments, rest) ← assignments? fuel room rest
      return ((path, key, v) :: assignments, rest)
    | _ => none

end

/-! ### Documents -/

/-- A line that says something. -/
def statement? : Reader Statement
  | '[' :: '[' :: rest => do
    let ((path, key), rest) ← key? rest
    return (.openItem path key, ← expect? ']' (← expect? ']' rest))
  | '[' :: rest => do
    let ((path, key), rest) ← key? rest
    return (.openTable path key, ← expect? ']' rest)
  | cs => do
    let ((path, key), rest) ← key? cs
    let rest := skipBlanks (← expect? '=' rest)
    -- each character is entered at most twice, as a value and as an item
    let (v, rest) ← value? (2 * rest.length + 1) maxNesting rest
    return (.assign path key v, rest)

/-- The lines of a text. -/
def statements? : (fuel : Nat) → List Char → Option (List Statement)
  | 0, _ => none
  | fuel + 1, cs => do
    match ← skipGap? (cs.length + 1) cs with
    | [] => return []
    | cs =>
      let (s, rest) ← statement? cs
      return s :: (← statements? fuel (← endLine? rest))

/-- The document that a text says.  A byte order mark at its start does not count. -/
def parse? (s : String) : Option Toml := do
  let cs := match s.toList with
    | '\uFEFF' :: rest => rest
    | cs => cs
  ofStatements? (← statements? (cs.length + 1) cs)

end CallWatch.Toml
