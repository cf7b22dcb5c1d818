import CallWatch.Proofs.Text.Hex
import Mathlib.Data.List.Basic

/-!
# Which texts are hexadecimal

`Hex.decode` works on the bytes of a text.  Here is what it accepts in terms of characters, and what
it says about all other texts (`Hex.decode_spelling`).

* Every `0x` that a text begins with is taken off.  What is left does not begin with another one
  (`Hex.Strips`).
* The text is accepted exactly if the rest is digits in either case, two for each byte
  (`Hex.Spells`).
* A rest with an odd number of bytes is refused for that, any other one for its first byte that is
  no digit (`Hex.IsFirstOther`).

A character from beyond ASCII has only bytes that are no digits (`Text.le_of_mem_utf8EncodeChar`),
so no part of one is ever taken for a digit or for a `0x`.
-/

namespace CallWatch

/-! ### Bytes of characters -/

namespace Text

theorem utf8EncodeChar_of_lt {c : Char} (h : c.toNat < 0x80) :
    String.utf8EncodeChar c = [UInt8.ofNat c.toNat] := by
  have hle : c.val.toNat ≤ 0x7f := Nat.le_of_lt_succ h
  unfold String.utf8EncodeChar
  exact if_pos hle

/-- A character from beyond ASCII has no byte in common with ASCII. -/
theorem le_of_mem_utf8EncodeChar {c : Char} {x : UInt8} (h : 0x80 ≤ c.toNat)
    (hx : x ∈ String.utf8EncodeChar c) : 0x80 ≤ x.toNat := by
  have hgt : ¬ c.val.toNat ≤ 0x7f := Nat.not_le.2 h
  unfold String.utf8EncodeChar at hx
  simp only [if_neg hgt] at hx
  split_ifs at hx <;>
    simp only [List.mem_cons, List.not_mem_nil, or_false] at hx <;>
    rcases hx with rfl | rfl | rfl | rfl <;>
    rw [UInt8.toNat_ofNat'] <;>
    omega

/-- **A byte of ASCII stands for its character.** -/
theorem eq_cons_of_utf8_eq_cons {cs : List Char} {x : UInt8} {bytes : Bytes} (hx : x.toNat < 0x80)
    (h : cs.flatMap String.utf8EncodeChar = x :: bytes) :
    ∃ cs', cs = Char.ofNat x.toNat :: cs' ∧ cs'.flatMap String.utf8EncodeChar = bytes := by
  cases cs with
  | nil => cases h
  | cons c cs =>
    rw [List.flatMap_cons] at h
    by_cases hc : c.toNat < 0x80
    · rw [utf8EncodeChar_of_lt hc] at h
      obtain ⟨rfl, hrest⟩ := List.cons.inj h
      have hnat : (UInt8.ofNat c.toNat).toNat = c.toNat := by
        rw [UInt8.toNat_ofNat']
        omega
      exact ⟨cs, by rw [hnat, Char.ofNat_toNat], hrest⟩
    · cases hbytes : String.utf8EncodeChar c with
      | nil => exact (String.utf8EncodeChar_ne_nil hbytes).elim
      | cons y ys =>
        have hy : 0x80 ≤ y.toNat :=
          le_of_mem_utf8EncodeChar (Nat.le_of_not_lt hc) (hbytes ▸ List.mem_cons_self)
        rw [hbytes] at h
        rw [(List.cons.inj h).1] at hy
        omega

end Text

namespace Hex

/-! ### Digits -/

/-- The character `c` is the digit `d`, in either case. -/
def IsDigit (c : Char) (d : Nat) : Prop :=
  d < 16 ∧ (c = d.digitChar ∨ c = d.digitChar.toUpper)

/-- The byte is a digit. -/
def IsDigitByte (x : UInt8) : Prop :=
  ∃ d, IsDigit (Char.ofNat x.toNat) d

theorem IsDigit.toNat_lt {c : Char} {d : Nat} (h : IsDigit c d) : c.toNat < 0x80 := by
  have hlower : ∀ d : Fin 16, (Nat.digitChar d).toNat < 0x80 := by decide
  have hupper : ∀ d : Fin 16, (Nat.digitChar d).toUpper.toNat < 0x80 := by decide
  obtain ⟨hd, rfl | rfl⟩ := h
  · exact hlower ⟨d, hd⟩
  · exact hupper ⟨d, hd⟩

/-- **The value of a digit is found exactly for digits.** -/
theorem digitValue?_eq_some_iff {c : Char} {d : Nat} : digitValue? c = some d ↔ IsDigit c d := by
  -- the character is the one with its number, and each of the ranges has few
  have hdecimal : ∀ d : Fin 10, Char.ofNat (48 + d) = Nat.digitChar d := by decide
  have hlower : ∀ d : Fin 6, Char.ofNat (97 + d) = Nat.digitChar (d + 10) := by decide
  have hupper : ∀ d : Fin 6, Char.ofNat (65 + d) = (Nat.digitChar (d + 10)).toUpper := by decide
  constructor
  · intro h
    have hc : Char.ofNat c.toNat = c := Char.ofNat_toNat c
    unfold digitValue? at h
    split_ifs at h with hrange hrange hrange
    · obtain ⟨hlow : 48 ≤ c.toNat, hhigh : c.toNat ≤ 57⟩ := hrange
      obtain rfl : c.toNat - 48 = d := Option.some.inj h
      refine ⟨by omega, .inl ?_⟩
      rw [← hdecimal ⟨c.toNat - 48, by omega⟩, Nat.add_sub_cancel' hlow, hc]
    · obtain ⟨hlow : 97 ≤ c.toNat, hhigh : c.toNat ≤ 102⟩ := hrange
      obtain rfl : c.toNat - 97 + 10 = d := Option.some.inj h
      refine ⟨by omega, .inl ?_⟩
      rw [← hlower ⟨c.toNat - 97, by omega⟩, Nat.add_sub_cancel' hlow, hc]
    · obtain ⟨hlow : 65 ≤ c.toNat, hhigh : c.toNat ≤ 70⟩ := hrange
      obtain rfl : c.toNat - 65 + 10 = d := Option.some.inj h
      refine ⟨by omega, .inr ?_⟩
      rw [← hupper ⟨c.toNat - 65, by omega⟩, Nat.add_sub_cancel' hlow, hc]
  · have hcapital : ∀ d : Fin 16, digitValue? (Nat.digitChar d).toUpper = some d.val := by decide
    rintro ⟨hd, rfl | rfl⟩
    · exact digitValue?_digitChar hd
    · exact hcapital ⟨d, hd⟩

theorem nibble_eq_ok_iff {x : UInt8} {position d : Nat} :
    nibble x position = .ok d ↔ IsDigit (Char.ofNat x.toNat) d := by
  rw [← digitValue?_eq_some_iff, nibble]
  cases digitValue? (Char.ofNat x.toNat) with
  | none => simp only [reduceCtorEq]
  | some d' => simp only [Except.ok.injEq, Option.some.injEq]

theorem nibble_of_not_isDigitByte {x : UInt8} (h : ¬ IsDigitByte x) (position : Nat) :
    nibble x position = .error (.invalidByte x position) := by
  rw [nibble]
  cases hvalue : digitValue? (Char.ofNat x.toNat) with
  | none => rfl
  | some d => exact (h ⟨d, digitValue?_eq_some_iff.1 hvalue⟩).elim

theorem isDigitByte_iff {x : UInt8} :
    IsDigitByte x ↔ (digitValue? (Char.ofNat x.toNat)).isSome := by
  simp only [IsDigitByte, ← digitValue?_eq_some_iff, Option.isSome_iff_exists]

instance : DecidablePred IsDigitByte :=
  fun _ => decidable_of_iff _ isDigitByte_iff.symm

/-- A byte that is a digit is one of ASCII. -/
theorem toNat_lt_of_isDigit {x : UInt8} {d : Nat} (h : IsDigit (Char.ofNat x.toNat) d) :
    x.toNat < 0x80 := by
  have hvalid : x.toNat.isValidChar := .inl (Nat.lt_of_lt_of_le x.toNat_lt (by decide))
  have hnat : (Char.ofNat x.toNat).toNat = x.toNat := by
    rw [Char.ofNat, dif_pos hvalid]
    rfl
  exact hnat ▸ h.toNat_lt

/-! ### Pairs of digits -/

/-- The characters are the digits of these bytes, in either case, the higher one of a byte first. -/
inductive Spells : List Char → Bytes → Prop
  | nil : Spells [] []
  | cons {c c' : Char} {high low : Nat} {cs : List Char} {b : Bytes} (hhigh : IsDigit c high)
      (hlow : IsDigit c' low) (h : Spells cs b) :
      Spells (c :: c' :: cs) (UInt8.ofNat (16 * high + low) :: b)

/-- `x` is the first of these bytes that is no digit, and stands at this position. -/
def IsFirstOther (bytes : Bytes) (x : UInt8) (position : Nat) : Prop :=
  bytes[position]? = some x ∧ ¬ IsDigitByte x ∧ ∀ y ∈ bytes.take position, IsDigitByte y

theorem IsFirstOther.cons {bytes : Bytes} {x y : UInt8} {position : Nat} (hy : IsDigitByte y)
    (h : IsFirstOther bytes x position) : IsFirstOther (y :: bytes) x (position + 1) := by
  obtain ⟨hx, hother, hbefore⟩ := h
  refine ⟨hx, hother, ?_⟩
  rw [List.take_succ_cons]
  intro z hz
  rcases List.mem_cons.1 hz with rfl | hz
  · exact hy
  · exact hbefore z hz

theorem IsFirstOther.not_lt {bytes : Bytes} {x y : UInt8} {i j : Nat} (hx : IsFirstOther bytes x i)
    (hy : IsFirstOther bytes y j) : ¬ i < j := by
  intro hlt
  refine hx.2.1 (hy.2.2 x (List.mem_of_getElem? (i := i) ?_))
  rw [List.getElem?_take_of_lt hlt]
  exact hx.1

theorem IsFirstOther.unique {bytes : Bytes} {x y : UInt8} {i j : Nat} (hx : IsFirstOther bytes x i)
    (hy : IsFirstOther bytes y j) : x = y ∧ i = j := by
  obtain rfl : i = j := Nat.le_antisymm (Nat.le_of_not_lt (hy.not_lt hx))
    (Nat.le_of_not_lt (hx.not_lt hy))
  exact ⟨Option.some.inj (hx.1.symm.trans hy.1), rfl⟩

theorem pairs_of_isDigit {x y : UInt8} {rest : Bytes} {position high low : Nat}
    (hhigh : IsDigit (Char.ofNat x.toNat) high) (hlow : IsDigit (Char.ofNat y.toNat) low) :
    pairs position (x :: y :: rest) =
      (pairs (position + 2) rest).map (UInt8.ofNat (16 * high + low) :: ·) := by
  rw [pairs, nibble_eq_ok_iff.2 hhigh, nibble_eq_ok_iff.2 hlow]
  cases pairs (position + 2) rest <;> rfl

/-- **Pairs of bytes are read, or the first one that is no digit is named.** -/
theorem pairs_cases : ∀ (bytes : Bytes) (position : Nat), bytes.length % 2 = 0 →
    (∃ b, pairs position bytes = .ok b ∧ ∀ x ∈ bytes, IsDigitByte x) ∨
    ∃ x i, pairs position bytes = .error (.invalidByte x (position + i)) ∧ IsFirstOther bytes x i
  | [], _, _ => .inl ⟨[], rfl, List.forall_mem_nil _⟩
  | [_], _, h => absurd h Nat.one_ne_zero
  | x :: y :: rest, position, h => by
    by_cases hx : IsDigitByte x
    case neg =>
      refine .inr ⟨x, 0, ?_, rfl, hx, List.forall_mem_nil _⟩
      rw [pairs, nibble_of_not_isDigitByte hx]
      rfl
    obtain ⟨high, hhigh⟩ := hx
    by_cases hy : IsDigitByte y
    case neg =>
      refine .inr ⟨y, 1, ?_, IsFirstOther.cons ⟨high, hhigh⟩ ⟨rfl, hy, List.forall_mem_nil _⟩⟩
      rw [pairs, nibble_eq_ok_iff.2 hhigh, nibble_of_not_isDigitByte hy]
      rfl
    obtain ⟨low, hlow⟩ := hy
    have heven : rest.length % 2 = 0 := by
      rw [List.length_cons, List.length_cons] at h
      omega
    rcases pairs_cases rest (position + 2) heven with ⟨b, hb, hall⟩ | ⟨z, i, hz, hfirst⟩
    · refine .inl ⟨UInt8.ofNat (16 * high + low) :: b, ?_, ?_⟩
      · rw [pairs_of_isDigit hhigh hlow, hb]
        rfl
      · exact List.forall_mem_cons.2 ⟨⟨high, hhigh⟩, List.forall_mem_cons.2 ⟨⟨low, hlow⟩, hall⟩⟩
    · refine .inr ⟨z, i + 2, ?_, (hfirst.cons ⟨low, hlow⟩).cons ⟨high, hhigh⟩⟩
      rw [pairs_of_isDigit hhigh hlow, hz, Nat.add_assoc, Nat.add_comm 2 i]
      rfl

/-- The characters with the numbers of these bytes. -/
def charsOf (bytes : Bytes) : List Char :=
  bytes.map fun x => Char.ofNat x.toNat

theorem spells_of_pairs_eq_ok : ∀ {bytes : Bytes} {position : Nat} {b : Bytes},
    pairs position bytes = .ok b → Spells (charsOf bytes) b
  | [], _, _, h => by
    cases h
    exact .nil
  | [_], _, _, h => by cases h
  | x :: y :: rest, position, b, h => by
    cases hhigh : nibble x position with
    | error e => rw [pairs, hhigh] at h; cases h
    | ok high =>
      cases hlow : nibble y (position + 1) with
      | error e => rw [pairs, hhigh, hlow] at h; cases h
      | ok low =>
        rw [nibble_eq_ok_iff] at hhigh hlow
        rw [pairs_of_isDigit hhigh hlow] at h
        cases hrest : pairs (position + 2) rest with
        | error e => rw [hrest] at h; cases h
        | ok b' =>
          rw [hrest] at h
          cases h
          exact .cons hhigh hlow (spells_of_pairs_eq_ok hrest)

theorem Spells.pairs_eq_ok : ∀ {bytes b : Bytes}, Spells (charsOf bytes) b →
    ∀ position, pairs position bytes = .ok b
  | [], _, .nil, _ => rfl
  | _ :: _ :: _, _, .cons hhigh hlow h, position => by
    rw [pairs_of_isDigit hhigh hlow, h.pairs_eq_ok]
    rfl

theorem Spells.length_eq {cs : List Char} {b : Bytes} (h : Spells cs b) :
    cs.length = 2 * b.length := by
  induction h with
  | nil => rfl
  | cons _ _ _ ih =>
    simp only [List.length_cons, ih]
    omega

/-- Digits are the characters of their own bytes. -/
theorem Spells.charsOf_utf8 {cs : List Char} {b : Bytes} (h : Spells cs b) :
    charsOf (cs.flatMap String.utf8EncodeChar) = cs := by
  have hchar {c : Char} {d : Nat} (hd : IsDigit c d) :
      Char.ofNat (UInt8.ofNat c.toNat).toNat = c := by
    have hlt := hd.toNat_lt
    rw [UInt8.toNat_ofNat', Nat.mod_eq_of_lt (by omega), Char.ofNat_toNat]
  induction h with
  | nil => rfl
  | @cons c c' high low cs b hhigh hlow h ih =>
    rw [List.flatMap_cons, List.flatMap_cons, Text.utf8EncodeChar_of_lt hhigh.toNat_lt,
      Text.utf8EncodeChar_of_lt hlow.toNat_lt]
    show Char.ofNat _ :: Char.ofNat _ :: charsOf (cs.flatMap String.utf8EncodeChar) = _
    rw [hchar hhigh, hchar hlow, ih]

/-- No other characters have the bytes of digits. -/
theorem spells_of_spells_utf8 {cs : List Char} {b : Bytes}
    (h : Spells (charsOf (cs.flatMap String.utf8EncodeChar)) b) : Spells cs b := by
  generalize hchars : charsOf (cs.flatMap String.utf8EncodeChar) = ds at h
  induction h generalizing cs with
  | nil =>
    cases cs with
    | nil => exact .nil
    | cons c cs =>
      have hbytes := List.map_eq_nil_iff.1 hchars
      exact (String.utf8EncodeChar_ne_nil (List.append_eq_nil_iff.1 hbytes).1).elim
  | cons hhigh hlow _ ih =>
    obtain ⟨x, _, hcs, rfl, htail⟩ := List.map_eq_cons_iff.1 hchars
    obtain ⟨y, rest, rfl, rfl, hrest⟩ := List.map_eq_cons_iff.1 htail
    obtain ⟨cs', rfl, hcs'⟩ := Text.eq_cons_of_utf8_eq_cons (toNat_lt_of_isDigit hhigh) hcs
    obtain ⟨cs'', rfl, rfl⟩ := Text.eq_cons_of_utf8_eq_cons (toNat_lt_of_isDigit hlow) hcs'
    exact .cons hhigh hlow (ih hrest)

/-! ### Leading `0x` -/

/-- The text `rest` behind this many `0x`. -/
def prefixed (rest : String) : (count : Nat) → String
  | 0 => rest
  | count + 1 => "0x" ++ prefixed rest count

/-- `rest` is what is left of the text `t` without all of its leading `0x`. -/
structure Strips (t rest : String) : Prop where
  eq_prefixed : ∃ count, t = prefixed rest count
  bare : ∀ s, rest ≠ "0x" ++ s

/-- Every text can be stripped. -/
theorem exists_strips (t : String) : ∃ rest, Strips t rest := by
  induction hlength : t.toList.length using Nat.strongRecOn generalizing t with
  | ind n ih =>
    by_cases hbare : ∀ s, t ≠ "0x" ++ s
    · exact ⟨t, ⟨0, rfl⟩, hbare⟩
    · obtain ⟨s, rfl⟩ := not_forall_not.1 hbare
      have hshorter : s.toList.length < n := by
        rw [← hlength, String.toList_append, List.length_append]
        exact Nat.lt_add_of_pos_left (by decide)
      obtain ⟨rest, ⟨count, rfl⟩, hrest⟩ := ih _ hshorter s rfl
      exact ⟨rest, ⟨count + 1, rfl⟩, hrest⟩

theorem dropPrefixes_utf8_prefixed (rest : String) (count : Nat) :
    dropPrefixes (Text.utf8 (prefixed rest count)) = dropPrefixes (Text.utf8 rest) := by
  induction count with
  | zero => rfl
  | succ count ih =>
    have hbytes : Text.utf8 (prefixed rest (count + 1)) =
        0x30 :: 0x78 :: Text.utf8 (prefixed rest count) := by
      rw [prefixed, Text.utf8, String.toList_append, List.flatMap_append]
      rfl
    rw [hbytes, dropPrefixes, ih]

theorem dropPrefixes_utf8_of_bare {rest : String} (h : ∀ s, rest ≠ "0x" ++ s) :
    dropPrefixes (Text.utf8 rest) = Text.utf8 rest := by
  unfold dropPrefixes
  split
  · next bytes heq =>
    obtain ⟨cs, hcs, htail⟩ := Text.eq_cons_of_utf8_eq_cons (by decide) heq
    obtain ⟨cs', rfl, -⟩ := Text.eq_cons_of_utf8_eq_cons (by decide) htail
    refine (h (String.ofList cs') (String.toList_inj.1 ?_)).elim
    simp only [hcs, String.toList_append, String.toList_ofList]
    rfl
  · rfl

/-- **Stripping a text strips its bytes.** -/
theorem Strips.dropPrefixes_utf8 {t rest : String} (h : Strips t rest) :
    dropPrefixes (Text.utf8 t) = Text.utf8 rest := by
  obtain ⟨count, rfl⟩ := h.eq_prefixed
  rw [dropPrefixes_utf8_prefixed, dropPrefixes_utf8_of_bare h.bare]

theorem Strips.decode_eq {t rest : String} (h : Strips t rest) :
    decode t = if (Text.utf8 rest).length % 2 = 1 then .error .oddLength
      else pairs 0 (Text.utf8 rest) := by
  simp only [decode, h.dropPrefixes_utf8]

/-- Digits do not begin with a `0x`. -/
theorem Spells.bare {digits : String} {b : Bytes} (h : Spells digits.toList b) (s : String) :
    digits ≠ "0x" ++ s := by
  rintro rfl
  have hx : ¬ ∃ d, IsDigit 'x' d := by
    rintro ⟨d, hd⟩
    have hnone : digitValue? 'x' = none := by decide
    rw [← digitValue?_eq_some_iff, hnone] at hd
    cases hd
  rw [String.toList_append] at h
  cases h with
  | cons _ hlow _ => exact hx ⟨_, hlow⟩

/-! ### What is accepted, and what is said about the rest -/

theorem decode_eq_ok_iff {t : String} {b : Bytes} :
    decode t = .ok b ↔ ∃ count digits, t = prefixed digits count ∧ Spells digits.toList b := by
  constructor
  · intro h
    obtain ⟨rest, hrest⟩ := exists_strips t
    rw [hrest.decode_eq] at h
    split at h
    · cases h
    · obtain ⟨count, rfl⟩ := hrest.eq_prefixed
      exact ⟨count, rest, rfl, spells_of_spells_utf8 (spells_of_pairs_eq_ok h)⟩
  · rintro ⟨count, digits, rfl, h⟩
    have hstrips : Strips (prefixed digits count) digits := ⟨⟨count, rfl⟩, h.bare⟩
    have hbytes : Spells (charsOf (Text.utf8 digits)) b := by
      rw [Text.utf8, h.charsOf_utf8]
      exact h
    have hlength : (Text.utf8 digits).length = 2 * b.length := by
      rw [← hbytes.length_eq, charsOf, List.length_map]
    rw [hstrips.decode_eq, if_neg (by omega), hbytes.pairs_eq_ok]

theorem Strips.decode_eq_oddLength_iff {t rest : String} (h : Strips t rest) :
    decode t = .error .oddLength ↔ (Text.utf8 rest).length % 2 = 1 := by
  rw [h.decode_eq]
  split
  · next hodd => exact iff_of_true rfl hodd
  · next heven =>
    refine iff_of_false ?_ heven
    rcases pairs_cases (Text.utf8 rest) 0 (by omega) with ⟨b, hb, -⟩ | ⟨x, i, hx, -⟩
    · rw [hb]
      exact nofun
    · rw [hx]
      exact nofun

theorem Strips.decode_eq_invalidByte_iff {t rest : String} (h : Strips t rest) {x : UInt8}
    {i : Nat} :
    decode t = .error (.invalidByte x i) ↔
      (Text.utf8 rest).length % 2 = 0 ∧ IsFirstOther (Text.utf8 rest) x i := by
  rw [h.decode_eq]
  split
  · next hodd => exact iff_of_false nofun fun ⟨heven, _⟩ => by omega
  · next hodd =>
    have heven : (Text.utf8 rest).length % 2 = 0 := by omega
    rw [and_iff_right heven]
    rcases pairs_cases (Text.utf8 rest) 0 heven with ⟨b, hb, hall⟩ | ⟨y, j, hy, hfirst⟩
    · rw [hb]
      exact iff_of_false nofun fun hfirst => hfirst.2.1 (hall x (List.mem_of_getElem? hfirst.1))
    · rw [hy, Nat.zero_add]
      constructor
      · rintro ⟨⟩
        exact hfirst
      · intro hx
        obtain ⟨rfl, rfl⟩ := hx.unique hfirst
        rfl

/-- **Every byte string is read back, and a text is accepted exactly if it is some `0x` and then the
digits of bytes.**  What is said of any other text is about the rest behind all of its leading `0x`:
that it has an odd number of bytes, or else which is the first byte that is no digit. -/
theorem decode_spelling :
    (∀ b, decode (encode b) = .ok b) ∧
    ∀ t,
      (∀ b, decode t = .ok b ↔
        ∃ count digits, t = prefixed digits count ∧ Spells digits.toList b) ∧
      (∃ rest, Strips t rest) ∧
      ∀ rest, Strips t rest →
        (decode t = .error .oddLength ↔ (Text.utf8 rest).length % 2 = 1) ∧
        ∀ x i, decode t = .error (.invalidByte x i) ↔
          (Text.utf8 rest).length % 2 = 0 ∧ IsFirstOther (Text.utf8 rest) x i := by
  refine ⟨decode_encode, fun t => ⟨fun b => decode_eq_ok_iff, exists_strips t, ?_⟩⟩
  intro rest hrest
  exact ⟨hrest.decode_eq_oddLength_iff, fun x i => hrest.decode_eq_invalidByte_iff⟩

/-- A character from beyond ASCII has an even number of bytes here, and the first one is named. -/
theorem decode_spelling_accented :
    Strips "0x0xé" "é" ∧ decode "0x0xé" = .error (.invalidByte 0xc3 0) := by
  have hbare (s : String) : "é" ≠ "0x" ++ s := by
    intro h
    have hchars := congrArg String.toList h
    rw [String.toList_append] at hchars
    exact absurd (List.cons.inj hchars).1 (by decide)
  have hstrips : Strips "0x0xé" "é" := ⟨⟨2, rfl⟩, hbare⟩
  have hfirst : IsFirstOther (Text.utf8 "é") 0xc3 0 :=
    ⟨rfl, by decide, List.forall_mem_nil _⟩
  have hrefusal := (decode_spelling.2 "0x0xé").2.2 "é" hstrips
  exact ⟨hstrips, (hrefusal.2 0xc3 0).2 ⟨rfl, hfirst⟩⟩

end Hex

end CallWatch
