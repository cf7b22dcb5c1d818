import CallWatch.Json.Parser
import CallWatch.Json.Printer
import CallWatch.Proofs.Text.Hex

/-!
# Reading strings and integers back

The text of a string is read back up to its closing quote (`Json.string?_stringChars`), whatever
characters it holds: an escape gives the code unit of the character that it stands for, and the code
units of characters never hold half of a surrogate pair.

The text of an integer that fits 64 bits is read back as that integer (`Json.number?_intChars`),
provided that what stands behind it does not go on with the number.
-/

namespace CallWatch.Json

open Digits

/-! ### Strings -/

/-- The four digits of a control character. -/
theorem unitOfDigits?_control {c : Char} (h : c.toNat < 0x20) :
    unitOfDigits? '0' '0' (Nat.digitChar (c.toNat / 16)) (Nat.digitChar (c.toNat % 16)) =
      some c.toNat := by
  have hall : ∀ n : Fin 32,
      unitOfDigits? '0' '0' (Nat.digitChar (n / 16)) (Nat.digitChar (n % 16)) = some n.val := by
    decide
  exact hall ⟨c.toNat, h⟩

theorem units?_letter {letter c : Char} {rest : List Char} {units : List Nat} {behind : List Char}
    (hu : letter ≠ 'u') (hc : escaped? letter = some c) (h : units? rest = some (units, behind)) :
    units? ('\\' :: letter :: rest) = some (c.toNat :: units, behind) := by
  simp [units?, hu, hc, h]

/-- **A character is read back from its escape.** -/
theorem units?_escapeChar {c : Char} {rest : List Char} {units : List Nat} {behind : List Char}
    (h : units? rest = some (units, behind)) :
    units? (escapeChar c ++ rest) = some (c.toNat :: units, behind) := by
  unfold escapeChar
  split_ifs with h₁ h₂ h₃ h₄ h₅ h₆ h₇ h₈
  · subst h₁
    exact units?_letter (by decide) rfl h
  · subst h₂
    exact units?_letter (by decide) rfl h
  · subst h₃
    exact units?_letter (by decide) rfl h
  · subst h₄
    exact units?_letter (by decide) rfl h
  · subst h₅
    exact units?_letter (by decide) rfl h
  · subst h₆
    exact units?_letter (by decide) rfl h
  · subst h₇
    exact units?_letter (by decide) rfl h
  · -- a control character without a letter
    simp [units?, unitOfDigits?_control h₈, h]
  · -- any other character stands for itself
    simp [units?, h₂, h₈, h]

theorem units?_stringChars (cs rest : List Char) :
    units? (cs.flatMap escapeChar ++ '"' :: rest) = some (cs.map Char.toNat, rest) := by
  induction cs with
  | nil => rfl
  | cons c cs ih =>
    rw [List.flatMap_cons, List.append_assoc]
    exact units?_escapeChar ih

/-- No character is half of a surrogate pair. -/
theorem not_surrogate (c : Char) : ¬(0xD800 ≤ c.toNat ∧ c.toNat < 0xE000) := by
  have hvalid : c.toNat < 0xD800 ∨ 0xDFFF < c.toNat ∧ c.toNat < 0x110000 := c.valid
  omega

/-- **The code units of characters are those characters.** -/
theorem ofUnits?_map_toNat (cs : List Char) : ofUnits? (cs.map Char.toNat) = some cs := by
  match cs with
  | [] => rfl
  | [c] =>
    show (if _ then none else some [Char.ofNat c.toNat]) = _
    rw [if_neg (not_surrogate c), Char.ofNat_toNat]
  | c :: c' :: cs =>
    have hc := not_surrogate c
    have hhigh : ¬(0xD800 ≤ c.toNat ∧ c.toNat < 0xDC00) := by omega
    have hlow : ¬(0xDC00 ≤ c.toNat ∧ c.toNat < 0xE000) := by omega
    rw [List.map_cons, List.map_cons, ofUnits?, if_neg hhigh, if_neg hlow, ← List.map_cons,
      ofUnits?_map_toNat (c' :: cs), Option.map_some, Char.ofNat_toNat]

/-- **A string is read back** up to its closing quote. -/
theorem string?_stringChars (s : String) (rest : List Char) :
    string? (s.toList.flatMap escapeChar ++ '"' :: rest) = some (some s, rest) := by
  rw [string?, units?_stringChars]
  show some ((ofUnits? (s.toList.map Char.toNat)).map String.ofList, rest) = _
  rw [ofUnits?_map_toNat, Option.map_some, String.ofList_toList]

/-! ### Integers -/

/-- Whether a text is empty or goes on with what may stand behind a value. -/
def IsClosed : List Char → Prop
  | [] => True
  | c :: _ => c = ',' ∨ c = ']' ∨ c = '\x7d'

variable {rest : List Char}

/-- **The digits of a number end** where a value may end. -/
theorem spanDigits_toDigits (n : Nat) (hrest : IsClosed rest) :
    spanDigits (Nat.toDigits 10 n ++ rest) = (Nat.toDigits 10 n, rest) := by
  have hdigits (c : Char) (hc : c ∈ Nat.toDigits 10 n) : c.isDigit = true :=
    Nat.isDigit_of_mem_toDigits (by decide) (by decide) hc
  have hstop : rest.takeWhile Char.isDigit = [] ∧ rest.dropWhile Char.isDigit = rest := by
    cases rest with
    | nil => exact ⟨rfl, rfl⟩
    | cons c rest => rcases hrest with rfl | rfl | rfl <;> exact ⟨rfl, rfl⟩
  rw [spanDigits, List.takeWhile_append_of_pos hdigits, List.dropWhile_append_of_pos hdigits,
    hstop.1, hstop.2, List.append_nil]

theorem whole?_toDigits (n : Nat) (hrest : IsClosed rest) :
    whole? (Nat.toDigits 10 n ++ rest) = some (Nat.toDigits 10 n, rest) := by
  rw [whole?, spanDigits_toDigits n hrest]
  split
  · next h => exact (Nat.toDigits_ne_nil (Prod.mk.inj h).1).elim
  · -- a leading zero stands alone
    next c cs _ h =>
    have hchars := (Prod.mk.inj h).1
    by_cases hn : n = 0
    · subst hn
      cases hchars
    · have hhead := head?_toDigits_ne (by decide : 1 < 10) hn
      rw [hchars] at hhead
      exact (hhead rfl).elim
  · next h =>
    cases h
    rfl

theorem fraction?_of_isClosed (hrest : IsClosed rest) : fraction? rest = some ([], rest) := by
  cases rest with
  | nil => rfl
  | cons c rest => rcases hrest with rfl | rfl | rfl <;> rfl

theorem exponent?_of_isClosed (hrest : IsClosed rest) : exponent? rest = some (none, rest) := by
  cases rest with
  | nil => rfl
  | cons c rest => rcases hrest with rfl | rfl | rfl <;> rfl

theorem leading_map_digitChar {ds : List Nat} (h : ∀ d ∈ ds, d < 10) {n : Nat}
    (hrange : value 10 n ds < Nat.pow 2 64) :
    leading n (ds.map Nat.digitChar) = (value 10 n ds, 0) := by
  induction ds generalizing n with
  | nil => rfl
  | cons d ds ih =>
    have hd : d.digitChar.toNat - '0'.toNat = d :=
      Nat.toNat_digitChar_sub_48_of_lt_ten (h d List.mem_cons_self)
    rw [value_cons] at hrange
    have hnext : 10 * n + d < Nat.pow 2 64 :=
      Nat.lt_of_le_of_lt (le_value (by decide) _ ds) hrange
    rw [List.map_cons, leading, hd, if_pos hnext, value_cons]
    exact ih (fun d hd => h d (List.mem_cons_of_mem _ hd)) hrange

/-- All digits of a number that fits 64 bits count. -/
theorem leading_toDigits {n : Nat} (h : n < Nat.pow 2 64) :
    leading 0 (Nat.toDigits 10 n) = (n, 0) := by
  obtain ⟨ds, hchars, hsmall, hvalue⟩ := exists_toDigits (by decide : 1 < 10) n
  rw [hchars, leading_map_digitChar hsmall (by rwa [hvalue]), hvalue]

/-- A number that begins with a digit has no sign. -/
theorem toDigits_append_ne (n : Nat) (rest cs : List Char) :
    Nat.toDigits 10 n ++ rest ≠ '-' :: cs := by
  intro h
  cases hchars : Nat.toDigits 10 n with
  | nil => exact Nat.toDigits_ne_nil hchars
  | cons c cs =>
    have hc : c.isDigit = true :=
      Nat.isDigit_of_mem_toDigits (by decide) (by decide) (hchars ▸ List.mem_cons_self)
    rw [hchars] at h
    obtain rfl := (List.cons.inj h).1
    cases hc

theorem number?_toDigits {n : Nat} (h : n < Nat.pow 2 64) (hrest : IsClosed rest) :
    number? (Nat.toDigits 10 n ++ rest) = some (number n, rest) := by
  rw [number?]
  · simp [whole?_toDigits n hrest, fraction?_of_isClosed hrest, exponent?_of_isClosed hrest,
      ofNumeral, leading_toDigits h]
  · exact fun cs => toDigits_append_ne n rest cs

theorem number?_negative {n : Nat} (hpos : 0 < n) (h : n ≤ Nat.pow 2 63) (hrest : IsClosed rest) :
    number? ('-' :: (Nat.toDigits 10 n ++ rest)) = some (number (-n), rest) := by
  have hrange : n < Nat.pow 2 64 := Nat.lt_of_le_of_lt h (by decide)
  rw [number?]
  simp [whole?_toDigits n hrest, fraction?_of_isClosed hrest, exponent?_of_isClosed hrest,
    ofNumeral, leading_toDigits hrange, hpos, h]

/-- Whether an integer fits 64 bits, with or without a sign. -/
def FitsNumber (n : Int) : Prop :=
  -(Nat.pow 2 63 : Nat) ≤ n ∧ n < (Nat.pow 2 64 : Nat)

/-- **An integer that fits 64 bits is read back.** -/
theorem number?_intChars {n : Int} (h : FitsNumber n) (hrest : IsClosed rest) :
    number? (intChars n ++ rest) = some (number n, rest) := by
  obtain ⟨hlow, hhigh⟩ := h
  cases n with
  | ofNat n => exact number?_toDigits (Int.ofNat_lt.1 hhigh) hrest
  | negSucc n =>
    rw [Int.negSucc_eq] at hlow
    exact number?_negative (Nat.succ_pos n) (by omega) hrest

end CallWatch.Json
