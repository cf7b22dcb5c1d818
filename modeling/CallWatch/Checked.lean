import CallWatch.Word

/-!
# Arithmetic that refuses to wrap

Gas, nonces and depths are 64-bit counters and balances are 256-bit words.  Where a sum or a
difference would leave its range, the operations here answer `none`; the caller decides which
failure that is.  Each operation is characterised by the natural number that its answer stands for.
-/

namespace CallWatch.Checked

/-- The counter that stands for `n`, if it is in range. -/
def ofNat (n : Nat) : Option UInt64 :=
  if n < Nat.pow 2 64 then some (UInt64.ofNat n) else none

/-- The sum of two counters, if it is in range. -/
def add (a b : UInt64) : Option UInt64 :=
  ofNat (a.toNat + b.toNat)

/-- The difference of two counters, if it is not negative. -/
def sub (a b : UInt64) : Option UInt64 :=
  if b ≤ a then some (a - b) else none

/-- The product of two counters, if it is in range. -/
def mul (a b : UInt64) : Option UInt64 :=
  ofNat (a.toNat * b.toNat)

/-- The counter nearest to `n`: `n` itself, or the largest counter. -/
def saturate (n : Nat) : UInt64 :=
  (ofNat n).getD (UInt64.ofNat (Nat.pow 2 64 - 1))

/-- The sum of two amounts, if it is in range. -/
def addWord (a b : Word) : Option Word :=
  if a.toNat + b.toNat < Nat.pow 2 256 then some (a + b) else none

/-- The difference of two amounts, if it is not negative. -/
def subWord (a b : Word) : Option Word :=
  if b ≤ a then some (a - b) else none

/-! ### What the answers stand for -/

theorem ofNat_eq_some_iff {n : Nat} {c : UInt64} : ofNat n = some c ↔ c.toNat = n := by
  unfold ofNat
  split
  · next h =>
    rw [Option.some.injEq, ← UInt64.toNat_inj, UInt64.toNat_ofNat', Nat.mod_eq_of_lt h, eq_comm]
  · next h =>
    have := c.toNat_lt
    rw [Nat.pow_eq] at h
    simp only [reduceCtorEq, false_iff]; omega

theorem toNat_saturate {n : Nat} (h : n < Nat.pow 2 64) : (saturate n).toNat = n := by
  have hn : ofNat n = some (UInt64.ofNat n) := if_pos h
  rw [saturate, hn, Option.getD_some]
  exact ofNat_eq_some_iff.1 hn

theorem add_eq_some_iff {a b c : UInt64} : add a b = some c ↔ c.toNat = a.toNat + b.toNat :=
  ofNat_eq_some_iff

theorem mul_eq_some_iff {a b c : UInt64} : mul a b = some c ↔ c.toNat = a.toNat * b.toNat :=
  ofNat_eq_some_iff

theorem sub_eq_some_iff {a b c : UInt64} : sub a b = some c ↔ c.toNat + b.toNat = a.toNat := by
  unfold sub
  split
  · next h =>
    have hle := UInt64.le_iff_toNat_le.1 h
    rw [Option.some.injEq, ← UInt64.toNat_inj, UInt64.toNat_sub_of_le _ _ h]; omega
  · next h =>
    rw [UInt64.le_iff_toNat_le] at h
    simp only [reduceCtorEq, false_iff]; omega

theorem sub_eq_none_iff {a b : UInt64} : sub a b = none ↔ a < b := by
  unfold sub
  split
  · next h => simp only [reduceCtorEq, false_iff, UInt64.not_lt, h]
  · next h => exact iff_of_true rfl (UInt64.not_le.1 h)

theorem addWord_eq_some_iff {a b c : Word} :
    addWord a b = some c ↔ c.toNat = a.toNat + b.toNat := by
  unfold addWord
  split
  · next h =>
    rw [Option.some.injEq, ← BitVec.toNat_inj, BitVec.toNat_add, Nat.mod_eq_of_lt h, eq_comm]
  · next h =>
    have := c.isLt
    rw [Nat.pow_eq] at h
    simp only [reduceCtorEq, false_iff]; omega

theorem subWord_eq_some_iff {a b c : Word} :
    subWord a b = some c ↔ c.toNat + b.toNat = a.toNat := by
  unfold subWord
  split
  · next h =>
    have hle := BitVec.le_def.1 h
    rw [Option.some.injEq, ← BitVec.toNat_inj, BitVec.toNat_sub_of_le h]; omega
  · next h =>
    rw [BitVec.le_def] at h
    simp only [reduceCtorEq, false_iff]; omega

end CallWatch.Checked
