import CallWatch.Proofs.Json.Literals

/-!
# Reading values back

A value is plain if every part of it says something and its numbers are integers that fit 64 bits.
**The text of a plain value is read as that value** (`Json.parse?_render`).

The reading of a text within a value needs some fuel.  Twice the length of the text is enough: every
step consumes a character or enters one that does (`Json.value?_chars`).
-/

namespace CallWatch.Json

mutual

/-- Whether every part of the value says something, and its numbers are integers that fit 64
bits. -/
def IsPlain : Json → Prop
  | null | bool _ | string _ => True
  | number n => FitsNumber n
  | real _ | unreadable => False
  | array items => ArePlain items
  | object members => ArePlainMembers members

/-- Whether all items are plain. -/
def ArePlain : List Json → Prop
  | [] => True
  | v :: rest => IsPlain v ∧ ArePlain rest

/-- Whether all members are plain. -/
def ArePlainMembers : List (String × Json) → Prop
  | [] => True
  | (_, v) :: rest => IsPlain v ∧ ArePlainMembers rest

end

/-! ### The first character -/

/-- Whether a character may be the first one of a value: it is neither a blank nor a closing
bracket. -/
def BeginsValue (c : Char) : Prop :=
  ¬(c = ' ' ∨ c = '\n' ∨ c = '\t' ∨ c = '\r') ∧ c ≠ ']' ∧ c ≠ '\x7d'

instance (c : Char) : Decidable (BeginsValue c) :=
  inferInstanceAs (Decidable (_ ∧ _ ∧ _))

theorem skipBlanks_cons {c : Char} (h : BeginsValue c) (cs : List Char) :
    skipBlanks (c :: cs) = c :: cs :=
  List.dropWhile_cons_of_neg (by simpa using h.1)

/-- Behind a value there are no blanks to be skipped. -/
theorem skipBlanks_of_isClosed {cs : List Char} (h : IsClosed cs) : skipBlanks cs = cs := by
  cases cs with
  | nil => rfl
  | cons c cs => rcases h with rfl | rfl | rfl <;> rfl

theorem beginsValue_of_number {c : Char} (h : c = '-' ∨ c.isDigit = true) : BeginsValue c := by
  refine ⟨?_, ?_, ?_⟩
  · rintro (rfl | rfl | rfl | rfl) <;> rcases h with h | h <;> cases h
  · rintro rfl
    rcases h with h | h <;> cases h
  · rintro rfl
    rcases h with h | h <;> cases h

/-- A number begins with a sign or a digit. -/
theorem exists_intChars (n : Int) :
    ∃ c cs, intChars n = c :: cs ∧ (c = '-' ∨ c.isDigit = true) := by
  cases n with
  | negSucc n => exact ⟨_, _, rfl, .inl rfl⟩
  | ofNat n =>
    cases hchars : Nat.toDigits 10 n with
    | nil => exact (Nat.toDigits_ne_nil hchars).elim
    | cons c cs =>
      have hc : c.isDigit = true :=
        Nat.isDigit_of_mem_toDigits (by decide) (by decide) (hchars ▸ List.mem_cons_self)
      exact ⟨c, cs, hchars, .inr hc⟩

theorem exists_chars {v : Json} (hv : v.IsPlain) : ∃ c cs, v.chars = c :: cs ∧ BeginsValue c := by
  cases v with
  | null | string s => exact ⟨_, _, rfl, by decide⟩
  | bool b => cases b <;> exact ⟨_, _, rfl, by decide⟩
  | number n =>
    obtain ⟨c, cs, hchars, hc⟩ := exists_intChars n
    exact ⟨c, cs, hchars, beginsValue_of_number hc⟩
  | real | unreadable => exact hv.elim
  | array items => exact ⟨_, _, by rw [chars]; rfl, by decide⟩
  | object members => exact ⟨_, _, by rw [chars]; rfl, by decide⟩

/-! ### Numbers among values -/

/-- What begins no other value is read as a number. -/
theorem value?_of_number {c : Char} (h : c = '-' ∨ c.isDigit = true) (cs : List Char) (fuel : Nat) :
    value? (fuel + 1) (c :: cs) = number? (c :: cs) := by
  have hc : c ≠ 'n' ∧ c ≠ 't' ∧ c ≠ 'f' ∧ c ≠ '"' ∧ c ≠ '[' ∧ c ≠ '\x7b' := by
    refine ⟨?_, ?_, ?_, ?_, ?_, ?_⟩ <;> rintro rfl <;> rcases h with h | h <;> cases h
  -- the patterns of all other values begin with one of these characters
  rw [value?] <;> grind

theorem value?_intChars {n : Int} {rest : List Char} (h : FitsNumber n) (hrest : IsClosed rest)
    (fuel : Nat) : value? (fuel + 1) (intChars n ++ rest) = some (number n, rest) := by
  obtain ⟨c, cs, hchars, hc⟩ := exists_intChars n
  have hnumber := number?_intChars h hrest
  rw [hchars] at hnumber ⊢
  exact (value?_of_number hc _ fuel).trans hnumber

/-! ### One step of the reading

What a value, a list of items or a list of members is read as, given what its parts are read as.
-/

variable {fuel : Nat} {cs rest : List Char}

theorem isClosed_comma (rest : List Char) : IsClosed (',' :: rest) := .inl rfl

theorem isClosed_bracket (rest : List Char) : IsClosed (']' :: rest) := .inr (.inl rfl)

theorem isClosed_brace (rest : List Char) : IsClosed ('\x7d' :: rest) := .inr (.inr rfl)

theorem value?_string (s : String) (rest : List Char) (fuel : Nat) :
    value? (fuel + 1) (stringChars s ++ rest) = some (string s, rest) := by
  show value? (fuel + 1) ('"' :: (s.toList.flatMap escapeChar ++ ['"'] ++ rest)) = _
  rw [List.append_assoc, value?]
  simp [string?_stringChars]

theorem value?_of_items {c : Char} {items : List Json} (hc : BeginsValue c)
    (h : items? fuel (c :: cs) = some (items, rest)) :
    value? (fuel + 1) ('[' :: c :: cs) = some (array items, rest) := by
  rw [value?, skipBlanks_cons hc]
  split
  · next heq => exact (hc.2.1 (List.cons.inj heq).1).elim
  · simp [h]

theorem value?_of_members {members : List (String × Json)}
    (h : members? fuel ('"' :: cs) = some (some members, rest)) :
    value? (fuel + 1) ('\x7b' :: '"' :: cs) = some (object members, rest) := by
  rw [value?, skipBlanks_cons (by decide)]
  simp [h]

theorem items?_last {v : Json} (h : value? fuel cs = some (v, ']' :: rest)) :
    items? (fuel + 1) cs = some ([v], rest) := by
  simp [items?, h, skipBlanks_of_isClosed (isClosed_bracket rest)]

theorem items?_more {v : Json} {items : List Json} {c : Char} {behind : List Char}
    (h : value? fuel cs = some (v, ',' :: c :: behind)) (hc : BeginsValue c)
    (htail : items? fuel (c :: behind) = some (items, rest)) :
    items? (fuel + 1) cs = some (v :: items, rest) := by
  simp [items?, h, skipBlanks_of_isClosed (isClosed_comma _), skipBlanks_cons hc, htail]

theorem members?_last {name : String} {v : Json} {c : Char} (hc : BeginsValue c)
    (h : value? fuel (c :: cs) = some (v, '\x7d' :: rest)) :
    members? (fuel + 1) (stringChars name ++ ':' :: c :: cs) = some (some [(name, v)], rest) := by
  show members? (fuel + 1) ('"' :: (name.toList.flatMap escapeChar ++ ['"'] ++ _)) = _
  have hcolon : skipBlanks (':' :: c :: cs) = ':' :: c :: cs := skipBlanks_cons (by decide) _
  rw [List.append_assoc, members?]
  simp [string?_stringChars, hcolon, skipBlanks_cons hc, h,
    skipBlanks_of_isClosed (isClosed_brace rest)]

theorem members?_more {name : String} {v : Json} {members : List (String × Json)} {c : Char}
    {behind : List Char} (hc : BeginsValue c)
    (h : value? fuel (c :: cs) = some (v, ',' :: '"' :: behind))
    (htail : members? fuel ('"' :: behind) = some (some members, rest)) :
    members? (fuel + 1) (stringChars name ++ ':' :: c :: cs) =
      some (some ((name, v) :: members), rest) := by
  show members? (fuel + 1) ('"' :: (name.toList.flatMap escapeChar ++ ['"'] ++ _)) = _
  have hcolon : skipBlanks (':' :: c :: cs) = ':' :: c :: cs := skipBlanks_cons (by decide) _
  have hquote : skipBlanks ('"' :: behind) = '"' :: behind := skipBlanks_cons (by decide) _
  rw [List.append_assoc, members?]
  simp [string?_stringChars, hcolon, skipBlanks_cons hc, h,
    skipBlanks_of_isClosed (isClosed_comma _), hquote, htail]

/-! ### Whole values -/

/-- The text of a list of items begins like that of its first item. -/
theorem exists_charsItems {v : Json} (hv : v.IsPlain) (items : List Json) :
    ∃ c cs, charsItems (v :: items) = c :: cs ∧ BeginsValue c := by
  obtain ⟨c, cs, hchars, hc⟩ := exists_chars hv
  cases items with
  | nil => exact ⟨c, cs, hchars, hc⟩
  | cons w items =>
    exact ⟨c, cs ++ ',' :: charsItems (w :: items), by simp [charsItems, hchars], hc⟩

theorem exists_charsMembers (name : String) (v : Json) (members : List (String × Json)) :
    ∃ cs, charsMembers ((name, v) :: members) = '"' :: cs := by
  cases members with
  | nil => exact ⟨_, rfl⟩
  | cons m members => exact ⟨_, rfl⟩

mutual

/-- **The text of a plain value is read as that value**, if the fuel is at least twice the length
of the text. -/
theorem value?_chars (v : Json) {rest : List Char} {fuel : Nat} (hv : v.IsPlain)
    (hrest : IsClosed rest) (hfuel : 2 * v.chars.length ≤ fuel) :
    value? fuel (v.chars ++ rest) = some (v, rest) := by
  match fuel, v with
  | 0, v =>
    obtain ⟨c, cs, hchars, -⟩ := exists_chars hv
    rw [hchars, List.length_cons] at hfuel
    omega
  | fuel + 1, null => rfl
  | fuel + 1, bool true => rfl
  | fuel + 1, bool false => rfl
  | fuel + 1, number n => exact value?_intChars hv hrest fuel
  | fuel + 1, string s => exact value?_string s rest fuel
  | fuel + 1, array [] => rfl
  | fuel + 1, array (v :: items) =>
    obtain ⟨c, cs, hchars, hc⟩ := exists_charsItems hv.1 items
    simp only [chars, List.length_cons, List.length_append] at hfuel
    have hitems : items? fuel (charsItems (v :: items) ++ ']' :: rest) = some (v :: items, rest) :=
      items?_charsItems v items hv (by omega)
    simp only [chars, List.cons_append, List.append_assoc, List.nil_append]
    rw [hchars] at hitems ⊢
    exact value?_of_items hc hitems
  | fuel + 1, object [] => rfl
  | fuel + 1, object ((name, v) :: members) =>
    obtain ⟨cs, hchars⟩ := exists_charsMembers name v members
    simp only [chars, List.length_cons, List.length_append] at hfuel
    have hmembers : members? fuel (charsMembers ((name, v) :: members) ++ '\x7d' :: rest) =
        some (some ((name, v) :: members), rest) :=
      members?_charsMembers name v members hv (by omega)
    simp only [chars, List.cons_append, List.append_assoc, List.nil_append]
    rw [hchars] at hmembers ⊢
    exact value?_of_members hmembers

theorem items?_charsItems (v : Json) (items : List Json) {rest : List Char} {fuel : Nat}
    (hplain : ArePlain (v :: items)) (hfuel : 2 * (charsItems (v :: items)).length + 1 ≤ fuel) :
    items? fuel (charsItems (v :: items) ++ ']' :: rest) = some (v :: items, rest) := by
  match fuel, items with
  | fuel + 1, [] =>
    have hv := value?_chars v hplain.1 (isClosed_bracket rest) (Nat.le_of_succ_le_succ hfuel)
    exact items?_last hv
  | fuel + 1, w :: items =>
    simp only [charsItems, List.length_append, List.length_cons] at hfuel
    obtain ⟨c, cs, hchars, hc⟩ := exists_charsItems hplain.2.1 items
    have hv := value?_chars v hplain.1 (isClosed_comma (charsItems (w :: items) ++ ']' :: rest))
      (by omega : 2 * v.chars.length ≤ fuel)
    have htail : items? fuel (charsItems (w :: items) ++ ']' :: rest) = some (w :: items, rest) :=
      items?_charsItems w items hplain.2 (by omega)
    simp only [charsItems, List.append_assoc, List.cons_append]
    rw [hchars] at hv htail ⊢
    exact items?_more hv hc htail

theorem members?_charsMembers (name : String) (v : Json) (members : List (String × Json))
    {rest : List Char} {fuel : Nat} (hplain : ArePlainMembers ((name, v) :: members))
    (hfuel : 2 * (charsMembers ((name, v) :: members)).length + 1 ≤ fuel) :
    members? fuel (charsMembers ((name, v) :: members) ++ '\x7d' :: rest) =
      some (some ((name, v) :: members), rest) := by
  obtain ⟨c, cs, hchars, hc⟩ := exists_chars hplain.1
  match fuel, members with
  | fuel + 1, [] =>
    simp only [charsMembers, List.length_append, List.length_cons] at hfuel
    have hv := value?_chars v hplain.1 (isClosed_brace rest)
      (by omega : 2 * v.chars.length ≤ fuel)
    simp only [charsMembers, List.append_assoc, List.cons_append]
    rw [hchars] at hv ⊢
    exact members?_last hc hv
  | fuel + 1, (name', w) :: members =>
    simp only [charsMembers, List.length_append, List.length_cons] at hfuel
    obtain ⟨behind, hbehind⟩ := exists_charsMembers name' w members
    have hv := value?_chars v hplain.1
      (isClosed_comma (charsMembers ((name', w) :: members) ++ '\x7d' :: rest))
      (by omega : 2 * v.chars.length ≤ fuel)
    have htail : members? fuel (charsMembers ((name', w) :: members) ++ '\x7d' :: rest) =
        some (some ((name', w) :: members), rest) :=
      members?_charsMembers name' w members hplain.2 (by omega)
    simp only [charsMembers, List.append_assoc, List.cons_append]
    rw [hchars, hbehind] at hv
    rw [hbehind] at htail
    rw [hchars, hbehind]
    exact members?_more hc hv htail

end

/-- **The text of a plain value is read as that value.** -/
theorem parse?_render {v : Json} (hv : v.IsPlain) : parse? v.render = some v := by
  obtain ⟨c, cs, hchars, hc⟩ := exists_chars hv
  have hskip : skipBlanks v.chars = v.chars := by rw [hchars, skipBlanks_cons hc]
  have hread : value? (2 * v.chars.length + 1) v.chars = some (v, []) := by
    have hclosed : IsClosed [] := trivial
    have h := value?_chars v hv hclosed (Nat.le_succ _)
    rwa [List.append_nil] at h
  rw [parse?, render, String.toList_ofList, hskip, hread]
  rfl

/-! ### Readability -/

mutual

/-- A plain value is readable. -/
theorem isReadable_of_isPlain {v : Json} (hv : v.IsPlain) : v.isReadable = true := by
  match v with
  | null | bool _ | number _ | string _ => rfl
  | array items => exact areReadable_of_arePlain hv
  | object members => exact areReadableMembers_of_arePlainMembers hv

theorem areReadable_of_arePlain {items : List Json} (h : ArePlain items) :
    areReadable items = true := by
  match items with
  | [] => rfl
  | v :: items =>
    rw [areReadable, isReadable_of_isPlain h.1, areReadable_of_arePlain h.2]
    rfl

theorem areReadableMembers_of_arePlainMembers {members : List (String × Json)}
    (h : ArePlainMembers members) : areReadableMembers members = true := by
  match members with
  | [] => rfl
  | (name, v) :: members =>
    rw [areReadableMembers, isReadable_of_isPlain h.1, areReadableMembers_of_arePlainMembers h.2]
    rfl

end

end CallWatch.Json
