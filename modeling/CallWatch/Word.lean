import Std.Data.ExtTreeMap

/-!
# Bytes, addresses and words

The plain data of the machine: strings of bytes, 20-byte account addresses and 32-byte words.  A
word is both a storage cell and an unsigned number, so amounts, slots and digests share one type,
and `Word.toBytes` is the only place where the two readings meet.

All byte strings that stand for numbers are big-endian.
-/

namespace CallWatch

/-- A string of bytes. -/
abbrev Bytes := List UInt8

/-- The 20-byte address of an account. -/
abbrev Address := BitVec 160

/-- A 32-byte word: a storage key or value, a digest, or an amount. -/
abbrev Word := BitVec 256

/-- Addresses are ordered as numbers. -/
instance Address.transOrd : Std.TransOrd Address := BitVec.instTransOrd

/-- Words are ordered as numbers. -/
instance Word.transOrd : Std.TransOrd Word := BitVec.instTransOrd

namespace Bytes

/-- The `count` low bytes of `n`, most significant first. -/
def ofNat : (count n : Nat) → Bytes
  | 0, _ => []
  | count + 1, n => ofNat count (n / 256) ++ [UInt8.ofNat n]

/-- The number that `b` spells in base 256. -/
def toNat (b : Bytes) : Nat :=
  b.foldl (fun n x => 256 * n + x.toNat) 0

/-- The first `count` pieces of `size` bytes each; pieces past the end are short or empty. -/
def chunks (size : Nat) : (count : Nat) → Bytes → List Bytes
  | 0, _ => []
  | count + 1, b => b.take size :: chunks size count (b.drop size)

@[simp] theorem length_ofNat (count n : Nat) : (ofNat count n).length = count := by
  induction count generalizing n with
  | zero => rfl
  | succ count ih => simp [ofNat, ih]

theorem toNat_append_singleton (b : Bytes) (x : UInt8) :
    toNat (b ++ [x]) = 256 * toNat b + x.toNat := by
  simp [toNat]

/-- **Writing a number in enough bytes loses nothing.** -/
theorem toNat_ofNat (count n : Nat) (h : n < Nat.pow 256 count) : toNat (ofNat count n) = n := by
  induction count generalizing n with
  | zero => simp at h; simp [h, ofNat, toNat]
  | succ count ih =>
    have hdiv : n / 256 < Nat.pow 256 count := by
      rw [Nat.div_lt_iff_lt_mul (by decide)]
      exact h
    rw [ofNat, toNat_append_singleton, ih _ hdiv, UInt8.toNat_ofNat']
    omega

end Bytes

/-- The 20 bytes of an address. -/
def Address.toBytes (a : Address) : Bytes :=
  Bytes.ofNat 20 a.toNat

/-- The address made of the last 20 bytes of `b`. -/
def Address.ofBytes (b : Bytes) : Address :=
  BitVec.ofNat 160 (Bytes.toNat b)

/-- The 32 bytes of a word. -/
def Word.toBytes (w : Word) : Bytes :=
  Bytes.ofNat 32 w.toNat

/-- The word made of the last 32 bytes of `b`. -/
def Word.ofBytes (b : Bytes) : Word :=
  BitVec.ofNat 256 (Bytes.toNat b)

end CallWatch
