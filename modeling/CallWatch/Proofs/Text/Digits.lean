import Mathlib.Tactic.Common

/-!
# Digits of numbers

`Nat.toDigits` writes a number with the characters of its digits.  Here are the digits behind the
characters: each is smaller than the base, together they spell the number
(`Digits.exists_toDigits`), and the first one is not zero unless the number is
(`Digits.head?_toDigits_ne`).
-/

namespace CallWatch.Digits

/-- The number that digits spell in a base, if they stand behind the number `n`. -/
def value (base n : Nat) (ds : List Nat) : Nat :=
  ds.foldl (base * · + ·) n

@[simp]
theorem value_nil (base n : Nat) : value base n [] = n :=
  rfl

@[simp]
theorem value_cons (base n d : Nat) (ds : List Nat) :
    value base n (d :: ds) = value base (base * n + d) ds :=
  rfl

theorem value_append (base n : Nat) (ds ds' : List Nat) :
    value base n (ds ++ ds') = value base (value base n ds) ds' :=
  List.foldl_append

/-- More digits make no smaller number. -/
theorem le_value {base : Nat} (hbase : 0 < base) (n : Nat) (ds : List Nat) :
    n ≤ value base n ds := by
  induction ds generalizing n with
  | nil => exact Nat.le_refl n
  | cons d ds ih =>
    rw [value_cons]
    calc
      n ≤ base * n := Nat.le_mul_of_pos_left n hbase
      _ ≤ base * n + d := Nat.le_add_right _ _
      _ ≤ value base (base * n + d) ds := ih _

/-- **The characters of a number are those of digits that spell it.** -/
theorem exists_toDigits {base : Nat} (hbase : 1 < base) (n : Nat) :
    ∃ ds : List Nat, Nat.toDigits base n = ds.map Nat.digitChar ∧ (∀ d ∈ ds, d < base) ∧
      value base 0 ds = n := by
  induction n using Nat.strongRecOn with
  | ind n ih =>
    by_cases hn : n < base
    · refine ⟨[n], Nat.toDigits_of_lt_base hn, ?_, ?_⟩
      · intro d hd
        rwa [List.mem_singleton.1 hd]
      · rw [value_cons, value_nil, Nat.mul_zero, Nat.zero_add]
    · have hle := Nat.le_of_not_lt hn
      have hpos : 0 < base := Nat.lt_trans Nat.zero_lt_one hbase
      obtain ⟨ds, hchars, hsmall, hvalue⟩ :=
        ih (n / base) (Nat.div_lt_self (Nat.lt_of_lt_of_le hpos hle) hbase)
      refine ⟨ds ++ [n % base], ?_, ?_, ?_⟩
      · rw [Nat.toDigits_of_base_le hbase hle, hchars, List.map_append, List.map_singleton]
      · intro d hd
        rcases List.mem_append.1 hd with h | h
        · exact hsmall d h
        · rw [List.mem_singleton.1 h]
          exact Nat.mod_lt n hpos
      · rw [value_append, hvalue, value_cons, value_nil, Nat.div_add_mod]

/-- A number other than zero has no leading zero. -/
theorem head?_toDigits_ne {base n : Nat} (hbase : 1 < base) (hn : n ≠ 0) :
    (Nat.toDigits base n).head? ≠ some '0' := by
  induction n using Nat.strongRecOn with
  | ind n ih =>
    by_cases hlt : n < base
    · rw [Nat.toDigits_of_lt_base hlt]
      simpa using hn
    · have hle := Nat.le_of_not_lt hlt
      have hdiv : n / base ≠ 0 := by
        rw [Nat.div_ne_zero_iff]
        exact ⟨by omega, hle⟩
      have hhead := ih _ (Nat.div_lt_self (Nat.pos_of_ne_zero hn) hbase) hdiv
      rw [Nat.toDigits_of_base_le hbase hle]
      cases hchars : Nat.toDigits base (n / base) with
      | nil => exact (Nat.toDigits_ne_nil hchars).elim
      | cons c cs =>
        rw [hchars] at hhead
        exact hhead

end CallWatch.Digits
