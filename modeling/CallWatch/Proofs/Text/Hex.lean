import CallWatch.Proofs.Text.Digits
import CallWatch.Text.Hex

/-!
# Reading hexadecimal text back

Each of the three readers reads back what was written for it: `Hex.decode` any byte string
(`Hex.decode_encode`), `Hex.fixed?` the number that a byte string spells (`Hex.fixed?_encode`), and
`Hex.quantity?` a number of at most 64 digits (`Hex.quantity?_quantity`).  So addresses and words
are read back from each of their forms.
-/

namespace CallWatch.Hex

open Digits

/-! ### Digits -/

theorem digitValue?_digitChar {d : Nat} (h : d < 16) : digitValue? d.digitChar = some d := by
  have hall : ∀ d : Fin 16, digitValue? (Nat.digitChar d) = some d.val := by decide
  exact hall ⟨d, h⟩

theorem isBlank_digitChar {d : Nat} (h : d < 16) : isBlank d.digitChar = false := by
  have hall : ∀ d : Fin 16, isBlank (Nat.digitChar d) = false := by decide
  exact hall ⟨d, h⟩

theorem mapM_digitValue? {ds : List Nat} (h : ∀ d ∈ ds, d < 16) :
    (ds.map Nat.digitChar).mapM digitValue? = some ds := by
  induction ds with
  | nil => rfl
  | cons d ds ih =>
    have hds := ih fun d hd => h d (List.mem_cons_of_mem _ hd)
    simp only [List.map_cons, List.mapM_cons, digitValue?_digitChar (h d List.mem_cons_self), hds]
    rfl

/-- Digits have no blanks among them. -/
theorem spacedDigits?_digits {ds : List Nat} (h : ∀ d ∈ ds, d < 16) :
    spacedDigits? (ds.map Nat.digitChar) = some ds := by
  have hblank : ∀ c ∈ ds.map Nat.digitChar, isBlank c = false := by
    intro c hc
    obtain ⟨d, hd, rfl⟩ := List.mem_map.1 hc
    exact isBlank_digitChar (h d hd)
  have hfilter : (ds.map Nat.digitChar).filter (!isBlank ·) = ds.map Nat.digitChar := by
    rw [List.filter_eq_self]
    intro c hc
    rw [hblank c hc]
    rfl
  have hcount : (ds.map Nat.digitChar).countP isBlank = 0 := by
    rw [List.countP_eq_zero]
    intro c hc
    rw [hblank c hc]
    exact Bool.false_ne_true
  rw [spacedDigits?, hfilter, mapM_digitValue? h, hcount]
  rfl

/-! ### Byte strings -/

/-- The digits of a byte string, two for each byte. -/
def nibbles (b : Bytes) : List Nat :=
  b.flatMap fun x => [x.toNat / 16, x.toNat % 16]

theorem digits_eq (b : Bytes) : digits b = (nibbles b).map Nat.digitChar := by
  rw [nibbles, List.map_flatMap]
  rfl

theorem lt_of_mem_nibbles {b : Bytes} {d : Nat} (h : d ∈ nibbles b) : d < 16 := by
  obtain ⟨x, -, hx⟩ := List.mem_flatMap.1 h
  have := x.toNat_lt
  simp only [List.mem_cons, List.not_mem_nil, or_false] at hx
  omega

theorem length_nibbles (b : Bytes) : (nibbles b).length = 2 * b.length := by
  induction b with
  | nil => rfl
  | cons x b ih =>
    show (nibbles b).length + 2 = 2 * (b.length + 1)
    rw [ih]
    omega

/-- The digits of a byte string spell the same number as its bytes. -/
theorem ofDigits_nibbles (b : Bytes) : ofDigits (nibbles b) = Bytes.toNat b := by
  have hfrom (n : Nat) : (nibbles b).foldl (16 * · + ·) n =
      b.foldl (fun n x => 256 * n + x.toNat) n := by
    induction b generalizing n with
    | nil => rfl
    | cons x b ih =>
      show (nibbles b).foldl (16 * · + ·) (16 * (16 * n + x.toNat / 16) + x.toNat % 16) = _
      rw [ih, List.foldl_cons]
      congr 1
      omega
  exact hfrom 0

theorem toList_encode (b : Bytes) :
    (encode b).toList = '0' :: 'x' :: (nibbles b).map Nat.digitChar := by
  rw [encode, String.toList_ofList, digits_eq]

/-- **A byte string of the right length is read as the number that it spells.** -/
theorem fixed?_encode (b : Bytes) : fixed? (2 * b.length) (encode b) = some (Bytes.toNat b) := by
  have hlength : ((nibbles b).map Nat.digitChar).length = 2 * b.length := by
    rw [List.length_map, length_nibbles]
  rw [fixed?, toList_encode]
  simp only [dropPrefix, if_pos hlength, spacedDigits?_digits fun d hd => lt_of_mem_nibbles hd]
  show some (ofDigits (nibbles b) * Nat.pow 16 (2 * b.length - (nibbles b).length)) = _
  rw [length_nibbles, Nat.sub_self, ofDigits_nibbles]
  exact congrArg some (Nat.mul_one _)

/-- The byte of the character of a digit. -/
def digitByte (d : Nat) : UInt8 :=
  UInt8.ofNat d.digitChar.toNat

theorem utf8EncodeChar_digitChar {d : Nat} (h : d < 16) :
    String.utf8EncodeChar d.digitChar = [digitByte d] := by
  have hall : ∀ d : Fin 16, String.utf8EncodeChar (Nat.digitChar d) = [digitByte d] := by decide
  exact hall ⟨d, h⟩

theorem nibble_digitByte {d : Nat} (h : d < 16) (position : Nat) :
    nibble (digitByte d) position = .ok d := by
  have hall : ∀ d : Fin 16, digitValue? (Char.ofNat (digitByte d).toNat) = some d.val := by decide
  rw [nibble, hall ⟨d, h⟩]

theorem digitByte_ne_x {d : Nat} (h : d < 16) : digitByte d ≠ 0x78 := by
  have hall : ∀ d : Fin 16, digitByte d ≠ 0x78 := by decide
  exact hall ⟨d, h⟩

theorem utf8_encode (b : Bytes) :
    Text.utf8 (encode b) = 0x30 :: 0x78 :: (nibbles b).map digitByte := by
  have hdigits (ds : List Nat) (h : ∀ d ∈ ds, d < 16) :
      (ds.map Nat.digitChar).flatMap String.utf8EncodeChar = ds.map digitByte := by
    induction ds with
    | nil => rfl
    | cons d ds ih =>
      rw [List.map_cons, List.flatMap_cons, utf8EncodeChar_digitChar (h d List.mem_cons_self),
        ih fun d hd => h d (List.mem_cons_of_mem _ hd)]
      rfl
  rw [Text.utf8, toList_encode, List.flatMap_cons, List.flatMap_cons,
    hdigits _ fun d hd => lt_of_mem_nibbles hd]
  rfl

/-- Digits do not begin with another `0x`. -/
theorem dropPrefixes_digits {ds : List Nat} (h : ∀ d ∈ ds, d < 16) :
    dropPrefixes (ds.map digitByte) = ds.map digitByte := by
  unfold dropPrefixes
  split
  · next heq =>
    obtain ⟨_, ds, rfl, -, heq⟩ := List.map_eq_cons_iff.1 heq
    obtain ⟨d, ds, rfl, hx, -⟩ := List.map_eq_cons_iff.1 heq
    exact (digitByte_ne_x (h d (List.mem_cons_of_mem _ List.mem_cons_self)) hx).elim
  · rfl

theorem pairs_nibbles (position : Nat) (b : Bytes) :
    pairs position ((nibbles b).map digitByte) = .ok b := by
  induction b generalizing position with
  | nil => rfl
  | cons x b ih =>
    have hx := x.toNat_lt
    have hbyte : UInt8.ofNat (16 * (x.toNat / 16) + x.toNat % 16) = x := by
      rw [Nat.div_add_mod, UInt8.ofNat_toNat]
    show pairs position (digitByte (x.toNat / 16) :: digitByte (x.toNat % 16) ::
      (nibbles b).map digitByte) = _
    rw [pairs, nibble_digitByte (by omega), nibble_digitByte (by omega), ih]
    show Except.ok (UInt8.ofNat _ :: b) = _
    rw [hbyte]

/-- **Every byte string is read back.** -/
theorem decode_encode (b : Bytes) : decode (encode b) = .ok b := by
  have hsmall (d : Nat) (hd : d ∈ nibbles b) : d < 16 := lt_of_mem_nibbles hd
  have heven : ((nibbles b).map digitByte).length % 2 ≠ 1 := by
    rw [List.length_map, length_nibbles]
    omega
  have hdrop : dropPrefixes (Text.utf8 (encode b)) = (nibbles b).map digitByte := by
    rw [utf8_encode, dropPrefixes, dropPrefixes_digits hsmall]
  simp only [decode, hdrop, if_neg heven, pairs_nibbles]

/-! ### Numbers -/

/-- **A number of at most 64 digits is read back.** -/
theorem quantity?_quantity {n : Nat} (h : n < Nat.pow 16 64) :
    quantity? (quantity n) = some n := by
  obtain ⟨ds, hchars, hsmall, hvalue⟩ := exists_toDigits (by decide : 1 < 16) n
  have hpos : 0 < (Nat.toDigits 16 n).length := Nat.length_toDigits_pos
  have hle : (Nat.toDigits 16 n).length ≤ 64 := by
    rwa [Nat.length_toDigits_le_iff (by decide) (by decide)]
  rw [quantity?, quantity, String.toList_ofList]
  simp only [dropPrefix, hpos, hle, and_self, if_true]
  rw [hchars, spacedDigits?_digits hsmall]
  exact congrArg some hvalue

end CallWatch.Hex

namespace CallWatch

/-- **An address is read back.** -/
theorem Address.ofHex?_toHex (a : Address) : Address.ofHex? a.toHex = some a := by
  have hlength : 2 * a.toBytes.length = 40 := by rw [toBytes, Bytes.length_ofNat]
  have hvalue : Bytes.toNat a.toBytes = a.toNat := Bytes.toNat_ofNat 20 a.toNat a.isLt
  rw [ofHex?, toHex, ← hlength, Hex.fixed?_encode, hvalue, Option.map_some, BitVec.ofNat_toNat,
    BitVec.setWidth_eq]

/-- **A word is read back.** -/
theorem Word.ofHex?_toHex (w : Word) : Word.ofHex? w.toHex = some w := by
  have hlength : 2 * w.toBytes.length = 64 := by rw [toBytes, Bytes.length_ofNat]
  have hvalue : Bytes.toNat w.toBytes = w.toNat := Bytes.toNat_ofNat 32 w.toNat w.isLt
  rw [ofHex?, toHex, ← hlength, Hex.fixed?_encode, hvalue, Option.map_some, BitVec.ofNat_toNat,
    BitVec.setWidth_eq]

/-- **A word is read back from its digits without leading zeros.** -/
theorem Word.ofQuantity?_quantity (w : Word) :
    Word.ofQuantity? (Hex.quantity w.toNat) = some w := by
  have hrange : w.toNat < Nat.pow 16 64 := w.isLt
  rw [ofQuantity?, Hex.quantity?_quantity hrange, Option.map_some, BitVec.ofNat_toNat,
    BitVec.setWidth_eq]

end CallWatch
