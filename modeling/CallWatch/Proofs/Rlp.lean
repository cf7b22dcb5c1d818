import CallWatch.Rlp
import Mathlib.Data.List.Basic
import Mathlib.Data.List.Induction

/-!
# Different creations hash different preimages

An encoding by recursive length prefixes can be read off the front of any text: whatever comes
behind it, two encodings agree only if they are of the same content.  That is shown for a header
(`Rlp.header_append_inj`), for a byte string (`Rlp.string_append_inj`) and so for a list of byte
strings (`Rlp.list_map_string_inj`), as long as the lengths fit the eight bytes that a header has
for them.

Since a number is given back by its bytes without leading zeros (`Rlp.toNat_minimal`), the preimage
of an address tells both creator and nonce.  The digest keeps 20 of its 32 bytes for the address, so
two creations share an address only where two different inputs have digests with the same last 20
bytes (`contractAddress_apart`).
-/

namespace CallWatch

/-! ### Numbers as bytes -/

namespace Bytes

@[simp]
theorem toNat_nil : toNat [] = 0 :=
  rfl

theorem toNat_append (b c : Bytes) :
    toNat (b ++ c) = toNat b * Nat.pow 256 c.length + toNat c := by
  induction c using List.reverseRecOn with
  | nil => simp
  | append_singleton c x ih =>
    rw [← List.append_assoc, toNat_append_singleton, ih, toNat_append_singleton,
      List.length_append, List.length_singleton]
    show _ = toNat b * (Nat.pow 256 c.length * 256) + _
    rw [← Nat.mul_assoc]
    omega

/-- **As many bytes as before give the same bytes back.** -/
theorem ofNat_toNat (b : Bytes) : ofNat b.length (toNat b) = b := by
  induction b using List.reverseRecOn with
  | nil => rfl
  | append_singleton b x ih =>
    have hx := x.toNat_lt
    have hfront : (256 * toNat b + x.toNat) / 256 = toNat b := by omega
    have hlast : UInt8.ofNat (256 * toNat b + x.toNat) = x := by
      rw [← UInt8.toNat_inj, UInt8.toNat_ofNat']
      omega
    rw [List.length_append, List.length_singleton, toNat_append_singleton, ofNat, hfront, ih, hlast]

theorem toNat_lt (b : Bytes) : toNat b < Nat.pow 256 b.length := by
  induction b using List.reverseRecOn with
  | nil => exact Nat.one_pos
  | append_singleton b x ih =>
    have hx := x.toNat_lt
    rw [toNat_append_singleton, List.length_append, List.length_singleton]
    show _ < Nat.pow 256 b.length * 256
    omega

theorem toNat_dropWhile_zero (b : Bytes) : toNat (b.dropWhile (· = 0)) = toNat b := by
  induction b with
  | nil => rfl
  | cons x b ih =>
    by_cases hx : x = 0
    · subst hx
      exact ih
    · rw [List.dropWhile_cons_of_neg (by simpa using hx)]

end Bytes

/-! ### Addresses as bytes -/

namespace Address

theorem toBytes_inj {a b : Address} : a.toBytes = b.toBytes ↔ a = b := by
  refine ⟨fun h => ?_, congrArg toBytes⟩
  have hnat : Bytes.toNat a.toBytes = Bytes.toNat b.toBytes := congrArg Bytes.toNat h
  rw [toBytes, toBytes, Bytes.toNat_ofNat 20 _ a.isLt, Bytes.toNat_ofNat 20 _ b.isLt] at hnat
  exact BitVec.eq_of_toNat_eq hnat

/-- **The bytes of an address are the last 20 of those that it was made of.** -/
theorem toBytes_ofBytes (front : Bytes) {last : Bytes} (h : last.length = 20) :
    (ofBytes (front ++ last)).toBytes = last := by
  have hlt : Bytes.toNat last < Nat.pow 256 20 := h ▸ Bytes.toNat_lt last
  have hnat : (ofBytes (front ++ last)).toNat = Bytes.toNat last := by
    rw [ofBytes, BitVec.toNat_ofNat, Bytes.toNat_append, h]
    show (_ * Nat.pow 256 20 + _) % Nat.pow 256 20 = _
    rw [Nat.mul_add_mod', Nat.mod_eq_of_lt hlt]
  rw [toBytes, hnat, ← h, Bytes.ofNat_toNat]

end Address

/-! ### Headers -/

namespace Rlp

/-- **A number is given back by its bytes.** -/
theorem toNat_minimal {n : Nat} (h : n < Nat.pow 2 64) : Bytes.toNat (minimal n) = n := by
  rw [minimal, Bytes.toNat_dropWhile_zero, Bytes.toNat_ofNat 8 n h]

theorem minimal_inj {k n : Nat} (hk : k < Nat.pow 2 64) (hn : n < Nat.pow 2 64) :
    minimal k = minimal n ↔ k = n := by
  refine ⟨fun h => ?_, congrArg minimal⟩
  rw [← toNat_minimal hk, ← toNat_minimal hn, h]

theorem length_minimal_le (n : Nat) : (minimal n).length ≤ 8 := by
  calc
    (minimal n).length ≤ (Bytes.ofNat 8 n).length := (List.dropWhile_suffix _).length_le
    _ = 8 := Bytes.length_ofNat 8 n

theorem length_minimal_pos {n : Nat} (hpos : 0 < n) (h : n < Nat.pow 2 64) :
    0 < (minimal n).length := by
  rw [List.length_pos_iff]
  intro hnil
  have hzero := toNat_minimal h
  rw [hnil, Bytes.toNat_nil] at hzero
  omega

/-- The header of a content of this length. -/
def header (base length : Nat) : Bytes :=
  if length < 56 then [UInt8.ofNat (base + length)]
  else UInt8.ofNat (base + 55 + (minimal length).length) :: minimal length

theorem withHeader_eq (base : Nat) (content : Bytes) :
    withHeader base content = header base content.length ++ content := by
  unfold withHeader header
  split <;> rfl

theorem ofNat_inj_of_le {k l : Nat} (hk : k ≤ 0xff) (hl : l ≤ 0xff)
    (h : UInt8.ofNat k = UInt8.ofNat l) : k = l := by
  rw [← UInt8.toNat_inj, UInt8.toNat_ofNat', UInt8.toNat_ofNat'] at h
  omega

/-- The first byte tells whether the length itself follows. -/
theorem short_ne_long {base k l : Nat} (hbase : base ≤ 0xc0) (hk : k < 56) (hl : ¬ l < 56)
    (hrange : l < Nat.pow 2 64) :
    UInt8.ofNat (base + k) ≠ UInt8.ofNat (base + 55 + (minimal l).length) := by
  intro h
  have hle := length_minimal_le l
  have hpos := length_minimal_pos (by omega) hrange
  have hfirst := ofNat_inj_of_le (by omega) (by omega) h
  omega

/-- **A header can be read off the front of any text.** -/
theorem header_append_inj {base k l : Nat} {r s : Bytes} (hbase : base ≤ 0xc0)
    (hk : k < Nat.pow 2 64) (hl : l < Nat.pow 2 64) (h : header base k ++ r = header base l ++ s) :
    k = l ∧ r = s := by
  have hsizek := length_minimal_le k
  have hsizel := length_minimal_le l
  unfold header at h
  split at h <;> split at h
  case isTrue.isTrue hshortk hshortl =>
    obtain ⟨hfirst, hrest⟩ := List.cons.inj h
    have hsum := ofNat_inj_of_le (by omega) (by omega) hfirst
    exact ⟨Nat.add_left_cancel hsum, hrest⟩
  case isTrue.isFalse hshort hlong =>
    exact (short_ne_long hbase hshort hlong hl (List.cons.inj h).1).elim
  case isFalse.isTrue hlong hshort =>
    exact (short_ne_long hbase hshort hlong hk (List.cons.inj h).1.symm).elim
  case isFalse.isFalse hlongk hlongl =>
    obtain ⟨hfirst, hrest⟩ := List.cons.inj h
    have hsize : (minimal k).length = (minimal l).length :=
      Nat.add_left_cancel (ofNat_inj_of_le (by omega) (by omega) hfirst)
    obtain ⟨hminimal, hrest⟩ := List.append_inj hrest hsize
    exact ⟨(minimal_inj hk hl).1 hminimal, hrest⟩

theorem withHeader_append_inj {base : Nat} {b c r s : Bytes} (hbase : base ≤ 0xc0)
    (hb : b.length < Nat.pow 2 64) (hc : c.length < Nat.pow 2 64)
    (h : withHeader base b ++ r = withHeader base c ++ s) : b = c ∧ r = s := by
  rw [withHeader_eq, withHeader_eq, List.append_assoc, List.append_assoc] at h
  obtain ⟨hlength, hrest⟩ := header_append_inj hbase hb hc h
  exact List.append_inj hrest hlength

/-! ### Byte strings -/

/-- A byte string stands for itself or behind a header. -/
theorem string_cases (b : Bytes) :
    (∃ x < 0x80, b = [x] ∧ string b = [x]) ∨ string b = withHeader 0x80 b := by
  unfold string
  split
  · next x =>
    split
    · next hx => exact .inl ⟨x, hx, rfl, rfl⟩
    · exact .inr rfl
  · exact .inr rfl

/-- Nothing that stands behind a header begins like what stands for itself. -/
theorem le_of_withHeader_append_eq_cons {b r s : Bytes} {x : UInt8}
    (h : withHeader 0x80 b ++ r = x :: s) : 0x80 ≤ x := by
  have hsize := length_minimal_le b.length
  rw [UInt8.le_iff_toNat_le]
  unfold withHeader at h
  split at h
  all_goals
    obtain ⟨rfl, -⟩ := List.cons.inj h
    rw [UInt8.toNat_ofNat']
    show 128 ≤ _
    omega

/-- **A byte string can be read off the front of any text.** -/
theorem string_append_inj {b c r s : Bytes} (hb : b.length < Nat.pow 2 64)
    (hc : c.length < Nat.pow 2 64) (h : string b ++ r = string c ++ s) : b = c ∧ r = s := by
  rcases string_cases b with ⟨x, hx, rfl, hxs⟩ | hheaderb <;>
    rcases string_cases c with ⟨y, hy, rfl, hys⟩ | hheaderc
  · rw [hxs, hys] at h
    obtain ⟨rfl, hrest⟩ := List.cons.inj h
    exact ⟨rfl, hrest⟩
  · rw [hxs, hheaderc] at h
    exact (UInt8.not_le.2 hx (le_of_withHeader_append_eq_cons h.symm)).elim
  · rw [hheaderb, hys] at h
    exact (UInt8.not_le.2 hy (le_of_withHeader_append_eq_cons h)).elim
  · rw [hheaderb, hheaderc] at h
    exact withHeader_append_inj (by decide) hb hc h

theorem length_header_le (base length : Nat) : (header base length).length ≤ 9 := by
  have := length_minimal_le length
  unfold header
  split <;> simp only [List.length_cons, List.length_nil] <;> omega

theorem length_header_pos (base length : Nat) : 0 < (header base length).length := by
  unfold header
  split <;> exact Nat.succ_pos _

/-- The encoding of a byte string is not empty, not shorter than it, and not much longer. -/
theorem length_string (b : Bytes) :
    0 < (string b).length ∧ b.length ≤ (string b).length ∧ (string b).length ≤ 9 + b.length := by
  rcases string_cases b with ⟨x, -, rfl, hx⟩ | hheader
  · rw [hx, List.length_singleton]
    omega
  · have hpos := length_header_pos 0x80 b.length
    have hle := length_header_le 0x80 b.length
    rw [hheader, withHeader_eq, List.length_append]
    omega

/-! ### Lists of byte strings -/

theorem string_append_ne_nil (b r : Bytes) : string b ++ r ≠ [] :=
  List.append_ne_nil_of_left_ne_nil (List.length_pos_iff.1 (length_string b).1) r

theorem flatten_map_string_inj {xs ys : List Bytes}
    (hlength : (xs.map string).flatten.length < Nat.pow 2 64)
    (h : (xs.map string).flatten = (ys.map string).flatten) : xs = ys := by
  induction xs generalizing ys with
  | nil =>
    cases ys with
    | nil => rfl
    | cons y ys => exact (string_append_ne_nil y _ h.symm).elim
  | cons x xs ih =>
    cases ys with
    | nil => exact (string_append_ne_nil x _ h).elim
    | cons y ys =>
      have hx := (length_string x).2.1
      have hy := (length_string y).2.1
      have hlength' := h ▸ hlength
      simp only [List.map_cons, List.flatten_cons, List.length_append] at h hlength hlength'
      obtain ⟨rfl, hrest⟩ := string_append_inj (by omega) (by omega) h
      rw [ih (by omega) hrest]

/-- **Different lists of byte strings have different encodings.** -/
theorem list_map_string_inj {xs ys : List Bytes}
    (hxs : (xs.map string).flatten.length < Nat.pow 2 64)
    (hys : (ys.map string).flatten.length < Nat.pow 2 64)
    (h : list (xs.map string) = list (ys.map string)) : xs = ys := by
  have happend : list (xs.map string) ++ [] = list (ys.map string) ++ [] := congrArg (· ++ []) h
  exact flatten_map_string_inj hxs (withHeader_append_inj (by decide) hxs hys happend).1

end Rlp

/-! ### The addresses of new contracts -/

theorem Keccak.length_digest (message : Bytes) : (digest message).length = 32 := by
  simp only [digest, laneBytes, List.flatMap_cons, List.flatMap_nil, List.length_append,
    List.length_reverse, Bytes.length_ofNat, List.length_nil]

/-- The creator and its nonce, as byte strings. -/
def creationItems (sender : Address) (nonce : UInt64) : List Bytes :=
  [sender.toBytes, Rlp.minimal nonce.toNat]

theorem creationPreimage_eq (sender : Address) (nonce : UInt64) :
    creationPreimage sender nonce = Rlp.list ((creationItems sender nonce).map Rlp.string) :=
  rfl

theorem length_creationItems_lt (sender : Address) (nonce : UInt64) :
    ((creationItems sender nonce).map Rlp.string).flatten.length < Nat.pow 2 64 := by
  have hsender := (Rlp.length_string sender.toBytes).2.2
  have hnonce := (Rlp.length_string (Rlp.minimal nonce.toNat)).2.2
  have hminimal := Rlp.length_minimal_le nonce.toNat
  rw [Address.toBytes, Bytes.length_ofNat, ← Address.toBytes] at hsender
  simp only [creationItems, List.map_cons, List.map_nil, List.flatten_cons, List.flatten_nil,
    List.length_append, List.length_nil, Nat.pow_eq]
  omega

/-- **The preimage of an address tells the creator and its nonce.** -/
theorem creationPreimage_inj {a b : Address} {m n : UInt64} :
    creationPreimage a m = creationPreimage b n ↔ a = b ∧ m = n := by
  constructor
  · intro h
    rw [creationPreimage_eq, creationPreimage_eq] at h
    have hitems : creationItems a m = creationItems b n :=
      Rlp.list_map_string_inj (length_creationItems_lt a m) (length_creationItems_lt b n) h
    obtain ⟨hsender, hrest⟩ := List.cons.inj hitems
    refine ⟨Address.toBytes_inj.1 hsender, UInt64.toNat_inj.1 ?_⟩
    exact (Rlp.minimal_inj m.toNat_lt n.toNat_lt).1 (List.cons.inj hrest).1
  · rintro ⟨rfl, rfl⟩
    rfl

/-- The bytes of the address are the last 20 bytes of the digest. -/
theorem toBytes_contractAddress (sender : Address) (nonce : UInt64) :
    (contractAddress sender nonce).toBytes =
      (Keccak.digest (creationPreimage sender nonce)).drop 12 := by
  have hlast : ((Keccak.digest (creationPreimage sender nonce)).drop 12).length = 20 := by
    rw [List.length_drop, Keccak.length_digest]
  rw [← Address.toBytes_ofBytes ((Keccak.digest (creationPreimage sender nonce)).take 12) hlast,
    List.take_append_drop]
  rfl

/-- **Different creations hash different preimages**, and so they get the same address only where
the digests of two different inputs have the same last 20 bytes. -/
theorem contractAddress_apart (a b : Address) (m n : UInt64) :
    (creationPreimage a m = creationPreimage b n ↔ a = b ∧ m = n) ∧
    (contractAddress a m = contractAddress b n ↔
      a = b ∧ m = n ∨
      creationPreimage a m ≠ creationPreimage b n ∧
        (Keccak.digest (creationPreimage a m)).drop 12 =
          (Keccak.digest (creationPreimage b n)).drop 12) := by
  refine ⟨creationPreimage_inj, ?_⟩
  rw [← Address.toBytes_inj, toBytes_contractAddress, toBytes_contractAddress]
  constructor
  · intro hdigest
    by_cases hsame : a = b ∧ m = n
    · exact .inl hsame
    · exact .inr ⟨fun h => hsame (creationPreimage_inj.1 h), hdigest⟩
  · rintro (⟨rfl, rfl⟩ | ⟨-, hdigest⟩)
    · rfl
    · exact hdigest

end CallWatch
