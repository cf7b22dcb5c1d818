import CallWatch.Double.Basic
import CallWatch.Text.Hex
import CallWatch.Toml.Basic

/-!
# TOML strings, numbers and dates

Each reader takes the text of a scalar from the head of the input and leaves what stands behind
it.  Whether that may stand there is for the caller to say.
-/

namespace CallWatch.Toml

/-- What a reader takes from the head of a text, and the text behind it. -/
abbrev Reader (α : Type) := List Char → Option (α × List Char)

/-- Whether a character is a blank. -/
def isBlank (c : Char) : Bool :=
  c = ' ' || c = '\t'

/-- The text behind its leading blanks. -/
def skipBlanks (cs : List Char) : List Char :=
  cs.dropWhile isBlank

/-- Whether a character may stand in a line as it is. -/
def isVisible (c : Char) : Bool :=
  c = '\t' || (0x20 ≤ c.toNat && c != '\x7f')

/-- The text behind a line break, if one stands at the head. -/
def lineBreak? : List Char → Option (List Char)
  | '\n' :: rest => some rest
  | '\r' :: '\n' :: rest => some rest
  | _ => none

/-! ### Strings -/

/-- The character with a number in base 16. -/
def scalar? (digits : List Char) : Option Char := do
  let n ← Hex.number? digits
  if n < 0xD800 ∨ 0xE000 ≤ n ∧ n < 0x110000 then some (Char.ofNat n) else none

/-- The character of an escape behind its backslash. -/
def escape? : Reader Char
  | 'b' :: rest => some ('\x08', rest)
  | 't' :: rest => some ('\t', rest)
  | 'n' :: rest => some ('\n', rest)
  | 'f' :: rest => some ('\x0c', rest)
  | 'r' :: rest => some ('\r', rest)
  | '"' :: rest => some ('"', rest)
  | '\\' :: rest => some ('\\', rest)
  | 'u' :: rest =>
    if rest.length < 4 then none
    else (scalar? (rest.take 4)).map ((·, rest.drop 4))
  | 'U' :: rest =>
    if rest.length < 8 then none
    else (scalar? (rest.take 8)).map ((·, rest.drop 8))
  | _ => none

/-- The characters of a string on one line up to its closing mark. -/
def lineChars? (mark : Char) (hasEscapes : Bool) : (fuel : Nat) → Reader (List Char)
  | 0, _ => none
  | _ + 1, [] => none
  | fuel + 1, c :: rest =>
    if c = mark then some ([], rest)
    else if hasEscapes ∧ c = '\\' then do
      let (e, rest) ← escape? rest
      let (cs, rest) ← lineChars? mark hasEscapes fuel rest
      return (e :: cs, rest)
    else if isVisible c then do
      let (cs, rest) ← lineChars? mark hasEscapes fuel rest
      return (c :: cs, rest)
    else none

/-- The text behind blanks and line breaks. -/
def skipBlankLines : List Char → List Char
  | '\n' :: rest => skipBlankLines rest
  | '\r' :: '\n' :: rest => skipBlankLines rest
  | c :: rest => if isBlank c then skipBlankLines rest else c :: rest
  | [] => []

/-- Whether the head of a text is a line break behind blanks. -/
def endsLine (cs : List Char) : Bool :=
  (lineBreak? (skipBlanks cs)).isSome

/-- The characters of a string on several lines up to its closing marks, in front of which one or
two marks may belong to it.  A line break counts as a newline; one behind a backslash does not
count, nor do the blanks around it. -/
def linesChars? (mark : Char) (hasEscapes : Bool) : (fuel : Nat) → Reader (List Char)
  | 0, _ => none
  | _ + 1, [] => none
  | fuel + 1, c :: rest =>
    if c = mark ∧ rest.take 2 = [mark, mark] then
      -- of up to five marks the last three close the string
      let marks := ((rest.drop 2).take 2).takeWhile (· = mark)
      some (marks, (rest.drop 2).drop marks.length)
    else if hasEscapes ∧ c = '\\' then
      if endsLine rest then do
        let rest := (lineBreak? (skipBlanks rest)).getD []
        linesChars? mark hasEscapes fuel (skipBlankLines rest)
      else do
        let (e, rest) ← escape? rest
        let (cs, rest) ← linesChars? mark hasEscapes fuel rest
        return (e :: cs, rest)
    else
      match lineBreak? (c :: rest) with
      | some rest => do
        let (cs, rest) ← linesChars? mark hasEscapes fuel rest
        return ('\n' :: cs, rest)
      | none =>
        if isVisible c then do
          let (cs, rest) ← linesChars? mark hasEscapes fuel rest
          return (c :: cs, rest)
        else none

/-- A string on one line. -/
def lineString? : Reader String
  | '"' :: rest => do
    let (cs, rest) ← lineChars? '"' true (rest.length + 1) rest
    return (String.ofList cs, rest)
  | '\'' :: rest => do
    let (cs, rest) ← lineChars? '\'' false (rest.length + 1) rest
    return (String.ofList cs, rest)
  | _ => none

/-- A string on several lines behind its opening marks; a line break at its start does not
count. -/
def linesString? (mark : Char) (hasEscapes : Bool) : Reader String := fun rest => do
  let rest := (lineBreak? rest).getD rest
  let (cs, rest) ← linesChars? mark hasEscapes (rest.length + 1) rest
  return (String.ofList cs, rest)

/-- A string of any kind. -/
def string? : Reader String
  | '"' :: '"' :: '"' :: rest => linesString? '"' true rest
  | '\'' :: '\'' :: '\'' :: rest => linesString? '\'' false rest
  | cs => lineString? cs

/-! ### Numbers -/

/-- Digits, between two of which an underscore may stand. -/
def digits? (isDigit : Char → Bool) : Reader (List Char)
  | [] => none
  | [c] => if isDigit c then some ([c], []) else none
  | c :: '_' :: rest =>
    if isDigit c then do
      let (cs, rest) ← digits? isDigit rest
      return (c :: cs, rest)
    else none
  | c :: d :: rest =>
    if !isDigit c then none
    else if isDigit d then do
      let (cs, rest) ← digits? isDigit (d :: rest)
      return (c :: cs, rest)
    else some ([c], d :: rest)

/-- A sign, if there is one: whether it is a minus. -/
def sign : List Char → Bool × List Char
  | '+' :: rest => (false, rest)
  | '-' :: rest => (true, rest)
  | cs => (false, cs)

/-- Decimal digits without leading zeros. -/
def wholeDigits? : Reader (List Char)
  | '0' :: rest => some (['0'], rest)
  | cs => digits? Char.isDigit cs

/-- An integer of the 64-bit range. -/
def ofInt? (n : Int) : Option Toml :=
  if -Int.pow 2 63 ≤ n ∧ n < Int.pow 2 63 then some (integer n) else none

/-- The number that digits in a base spell. -/
def natOfDigits (base : Nat) (cs : List Char) : Nat :=
  cs.foldl (fun n c => base * n + (Hex.digitValue? c).getD 0) 0

/-- An integer in another base, behind its two-letter mark. -/
def based? (base : Nat) : Reader Toml := fun cs => do
  let (ds, rest) ← digits? (fun c => (Hex.digitValue? c).any (· < base)) cs
  return (← ofInt? (natOfDigits base ds), rest)

/-- A decimal integer. -/
def decimal? : Reader Toml := fun cs => do
  let (isNegative, cs) := sign cs
  let (ds, rest) ← wholeDigits? cs
  let n : Int := natOfDigits 10 ds
  return (← ofInt? (if isNegative then -n else n), rest)

/-- An integer. -/
def integer? : Reader Toml
  | '0' :: 'x' :: rest => based? 16 rest
  | '0' :: 'o' :: rest => based? 8 rest
  | '0' :: 'b' :: rest => based? 2 rest
  | cs => decimal? cs

/-- Whether a number of `digits` and a power of ten is beyond double precision.  Only a number with
some 300 places in front of its point needs a closer look. -/
def isInfinite (digits : List Char) (exponent : Int) : Bool :=
  let digits := digits.dropWhile (· = '0')
  let places := exponent + digits.length
  if digits.isEmpty ∨ places ≤ 308 then false
  else 309 < places ∨ Double.limit ≤ Double.ofDecimal (natOfDigits 10 digits) exponent

/-- A point and the digits behind it, if there is a point. -/
def fraction? : Reader (List Char)
  | '.' :: rest => digits? Char.isDigit rest
  | cs => some ([], cs)

/-- An exponent, if there is one. -/
def exponent? : Reader (Option Int)
  | [] => some (none, [])
  | e :: rest =>
    if e = 'e' ∨ e = 'E' then do
      let (isNegative, rest) := sign rest
      let (ds, rest) ← digits? Char.isDigit rest
      let n : Int := natOfDigits 10 ds
      return (some (if isNegative then -n else n), rest)
    else some (none, e :: rest)

/-- A number with a fraction or an exponent, or infinity, or not a number.  Above double precision
there is nothing but the infinities. -/
def float? : Reader Toml := fun cs => do
  let (isNegative, cs) := sign cs
  match cs with
  | 'i' :: 'n' :: 'f' :: rest => return (float, rest)
  | 'n' :: 'a' :: 'n' :: rest => return (float, rest)
  | _ =>
    let (whole, cs) ← wholeDigits? cs
    let (fraction, cs) ← fraction? cs
    let (exponent, rest) ← exponent? cs
    if fraction.isEmpty ∧ exponent.isNone then none
    if !isNegative ∧ isInfinite (whole ++ fraction) (exponent.getD 0 - fraction.length) then none
    return (float, rest)

/-! ### Dates and times -/

/-- A number of exactly `count` digits in a range. -/
def field? (count low high : Nat) : Reader Nat := fun cs => do
  let ds := cs.take count
  if ds.length = count ∧ ds.all Char.isDigit then
    let n := natOfDigits 10 ds
    if low ≤ n ∧ n ≤ high then some (n, cs.drop count) else none
  else none

/-- The text behind a character that must stand at its head. -/
def expect? (c : Char) : List Char → Option (List Char)
  | d :: rest => if d = c then some rest else none
  | [] => none

/-- How many days a month has. -/
def daysIn (year month : Nat) : Nat :=
  if month = 2 then
    if year % 4 = 0 ∧ (year % 100 ≠ 0 ∨ year % 400 = 0) then 29 else 28
  else if month ∈ [4, 6, 9, 11] then 30
  else 31

/-- The text behind a date. -/
def skipDate? (cs : List Char) : Option (List Char) := do
  let (year, cs) ← field? 4 0 9999 cs
  let (month, cs) ← field? 2 1 12 (← expect? '-' cs)
  let (_, cs) ← field? 2 1 (daysIn year month) (← expect? '-' cs)
  return cs

/-- The text behind a time of day. -/
def skipTime? (cs : List Char) : Option (List Char) := do
  let (_, cs) ← field? 2 0 23 cs
  let (_, cs) ← field? 2 0 59 (← expect? ':' cs)
  let (_, cs) ← field? 2 0 60 (← expect? ':' cs)
  match cs with
  | '.' :: c :: rest =>
    if c.isDigit then some ((c :: rest).dropWhile Char.isDigit) else none
  | cs => some cs

/-- The text behind an offset from universal time, if there is one. -/
def skipOffset? : List Char → Option (List Char)
  | [] => some []
  | c :: rest =>
    if c = 'Z' ∨ c = 'z' then some rest
    else if c = '+' ∨ c = '-' then do
      let (_, cs) ← field? 2 0 23 rest
      let (_, cs) ← field? 2 0 59 (← expect? ':' cs)
      return cs
    else some (c :: rest)

/-- Whether a text starts like a date. -/
def startsDate (cs : List Char) : Bool :=
  (cs.take 4).all Char.isDigit && (cs.drop 4).head? = some '-' && cs.length ≥ 5

/-- Whether a text starts like a time of day. -/
def startsTime (cs : List Char) : Bool :=
  (cs.take 2).all Char.isDigit && (cs.drop 2).head? = some ':'

/-- A date, a time of day, or both.  A blank joins a date with a time only if a time follows. -/
def datetime? : Reader Toml := fun cs => do
  if startsDate cs then
    let rest ← skipDate? cs
    match rest with
    | c :: time =>
      if c = 'T' ∨ c = 't' ∨ (c = ' ' ∧ startsTime time) then
        return (datetime, ← skipOffset? (← skipTime? time))
      else return (datetime, rest)
    | [] => return (datetime, [])
  else return (datetime, ← skipTime? cs)

/-- Whether a text starts like a date or a time. -/
def startsDatetime (cs : List Char) : Bool :=
  startsDate cs || startsTime cs

/-- A number or a date. -/
def numeral? : Reader Toml := fun cs =>
  if startsDatetime cs then datetime? cs
  else (float? cs).or (integer? cs)

end CallWatch.Toml
