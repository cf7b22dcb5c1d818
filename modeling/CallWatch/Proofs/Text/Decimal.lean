import CallWatch.Proofs.Text.Digits
import CallWatch.Text.Decimal

/-!
# Reading decimal text back

A word is read back from its decimal digits (`Decimal.decode_encode`).  The reader refuses a number
as soon as its first digits leave the range, which they do not if all of them together stay in it.
-/

namespace CallWatch.Decimal

open Digits

theorem digitValue?_digitChar {d : Nat} (h : d < 10) : digitValue? d.digitChar = some d := by
  have hall : ∀ d : Fin 10, digitValue? (Nat.digitChar d) = some d.val := by decide
  exact hall ⟨d, h⟩

/-- Digits are read as the number that they spell, if it is in range. -/
theorem foldlM_step {ds : List Nat} (h : ∀ d ∈ ds, d < 10) {n : Nat}
    (hrange : value 10 n ds < Nat.pow 2 256) :
    (ds.map Nat.digitChar).foldlM step n = .ok (value 10 n ds) := by
  induction ds generalizing n with
  | nil => rfl
  | cons d ds ih =>
    rw [value_cons] at hrange ⊢
    have hnext : 10 * n + d < Nat.pow 2 256 :=
      Nat.lt_of_le_of_lt (le_value (by decide) _ ds) hrange
    have hstep : step n d.digitChar = .ok (10 * n + d) := by
      simp only [step, digitValue?_digitChar (h d List.mem_cons_self), if_pos hnext]
    rw [List.map_cons, List.foldlM_cons, hstep]
    exact ih (fun d hd => h d (List.mem_cons_of_mem _ hd)) hrange

/-- **Every word is read back.** -/
theorem decode_encode (w : Word) : decode (encode w) = .ok w := by
  obtain ⟨ds, hchars, hsmall, hvalue⟩ := exists_toDigits (by decide : 1 < 10) w.toNat
  have hrange : value 10 0 ds < Nat.pow 2 256 := by
    rw [hvalue]
    exact w.isLt
  rw [decode, encode, digits, String.toList_ofList, hchars, foldlM_step hsmall hrange, hvalue]
  show Except.ok (BitVec.ofNat 256 w.toNat) = _
  rw [BitVec.ofNat_toNat, BitVec.setWidth_eq]

end CallWatch.Decimal
