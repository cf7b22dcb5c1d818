import CallWatch.Precompile
import Mathlib.Algebra.Order.Floor.Div
import Mathlib.Data.ENat.Basic

/-!
# What the built-in contracts charge

`Precompile.wordPrice?` works out a price in counters of 64 bits and gives up wherever one of them
would leave its range.  `Precompile.tariff` is the same price without a range.  The two agree
wherever the tariff fits a counter, for all inputs that a memory of 64 bits can hold
(`wordPrice?_eq_some_iff`): no step on the way overflows before the price does.

So a contract that is priced by the word charges by the word (`Precompile.ChargesByWord`): the price
is exact or out of reach, a longer input is never cheaper, and a frame pays exactly the price or
keeps all it has.  `Precompile.standard_chargesByWord` says so of the three standard contracts.
-/

namespace CallWatch

/-- Every number in range is the number of a counter. -/
theorem Checked.exists_toNat_eq {n : Nat} (h : n < Nat.pow 2 64) : ∃ c : UInt64, c.toNat = n :=
  ⟨UInt64.ofNat n, UInt64.toNat_ofNat_of_lt h⟩

namespace Precompile

/-- What an input of this length costs: `base`, and `perWord` for every word or part of one. -/
def tariff (base perWord length : Nat) : Nat :=
  base + perWord * (length ⌈/⌉ 32)

theorem tariff_mono (base perWord : Nat) : Monotone (tariff base perWord) := by
  intro short long h
  have hwords : short ⌈/⌉ 32 ≤ long ⌈/⌉ 32 := by
    rw [Nat.ceilDiv_eq_add_pred_div, Nat.ceilDiv_eq_add_pred_div]
    omega
  exact Nat.add_le_add_left (Nat.mul_le_mul_left perWord hwords) base

/-! ### Prices in counters -/

/-- The number of words of an input, as the counters work it out. -/
theorem toNat_div_words {padded : UInt64} {length : Nat} (h : padded.toNat = length + 31) :
    (padded / 32).toNat = length ⌈/⌉ 32 := by
  rw [UInt64.toNat_div, h, Nat.ceilDiv_eq_add_pred_div]
  rfl

/-- **The price in counters is the tariff**, if the counters have room for the length and for the
tariff. -/
theorem wordPrice?_eq_some_iff {base perWord price : UInt64} {length : Nat} :
    wordPrice? base perWord length = some price ↔
      length + 31 < Nat.pow 2 64 ∧ price.toNat = tariff base.toNat perWord.toNat length := by
  constructor
  · intro h
    simp only [wordPrice?, Option.bind_eq_bind, Option.bind_eq_some_iff] at h
    obtain ⟨size, hsize, padded, hpadded, dynamic, hdynamic, hprice⟩ := h
    rw [Checked.ofNat_eq_some_iff] at hsize
    rw [Checked.add_eq_some_iff, hsize] at hpadded
    rw [Checked.mul_eq_some_iff, toNat_div_words hpadded] at hdynamic
    rw [Checked.add_eq_some_iff, hdynamic] at hprice
    refine ⟨?_, hprice⟩
    calc
      length + 31 = padded.toNat := hpadded.symm
      _ < Nat.pow 2 64 := padded.toNat_lt
  · rintro ⟨hlength, hprice⟩
    have htariff : tariff base.toNat perWord.toNat length < Nat.pow 2 64 :=
      hprice ▸ price.toNat_lt
    obtain ⟨size, hsize⟩ :=
      Checked.exists_toNat_eq (Nat.lt_of_le_of_lt (Nat.le_add_right _ 31) hlength)
    obtain ⟨padded, hpadded⟩ := Checked.exists_toNat_eq hlength
    obtain ⟨dynamic, hdynamic⟩ :=
      Checked.exists_toNat_eq (Nat.lt_of_le_of_lt (Nat.le_add_left _ base.toNat) htariff)
    have hsize' : Checked.ofNat length = some size := Checked.ofNat_eq_some_iff.2 hsize
    have hpadded' : Checked.add size 31 = some padded := by
      rw [Checked.add_eq_some_iff, hsize, hpadded]
      rfl
    have hdynamic' : Checked.mul perWord (padded / 32) = some dynamic := by
      rw [Checked.mul_eq_some_iff, toNat_div_words hpadded, hdynamic]
    have hprice' : Checked.add base dynamic = some price := by
      rw [Checked.add_eq_some_iff, hdynamic, hprice]
      rfl
    simp only [wordPrice?, hsize', hpadded', hdynamic', hprice', Option.bind_eq_bind,
      Option.bind_some]

/-- So counting with a range at every step refuses no more than counting without one. -/
theorem wordPrice?_eq {base perWord : UInt64} {length : Nat} (h : length + 31 < Nat.pow 2 64) :
    wordPrice? base perWord length = Checked.ofNat (tariff base.toNat perWord.toNat length) := by
  refine Option.ext fun price => ?_
  rw [wordPrice?_eq_some_iff, Checked.ofNat_eq_some_iff]
  exact and_iff_right h

/-! ### Paying -/

variable {p : Precompile} {frame : Frame} {input : Bytes} {price : UInt64} {failure : Failure}

theorem run_of_price_eq_error (h : p.price input = .error failure) :
    p.run frame input = (.error failure, frame) := by
  simp only [run, h]

theorem run_of_price_le (h : p.price input = .ok price) (hgas : price ≤ frame.gasRemaining) :
    p.run frame input =
      (p.answer input, { frame with gasRemaining := frame.gasRemaining - price }) := by
  have hsub : Checked.sub frame.gasRemaining price = some (frame.gasRemaining - price) :=
    if_pos hgas
  simp only [run, h, Frame.charge?, hsub, Option.map_some]

theorem run_of_lt_price (h : p.price input = .ok price) (hgas : frame.gasRemaining < price) :
    p.run frame input = (.error .outOfGas, frame) := by
  have hsub : Checked.sub frame.gasRemaining price = none := Checked.sub_eq_none_iff.2 hgas
  simp only [run, h, Frame.charge?, hsub, Option.map_none]

/-! ### Contracts that charge by the word -/

/-- The price of an input, where one that nobody can pay counts as infinite. -/
def fee (p : Precompile) (input : Bytes) : ENat :=
  match p.price input with
  | .ok price => price.toNat
  | .error _ => ⊤

/-- How a contract charges that costs `base`, and `perWord` for every word or part of one.  The
inputs are those that a memory of 64 bits can hold. -/
structure ChargesByWord (p : Precompile) (base perWord : Nat) : Prop where
  /-- The price is the tariff, and there is one whenever the tariff fits a counter. -/
  price_eq_ok_iff {input : Bytes} {price : UInt64} (hinput : input.length < Nat.pow 2 63) :
    p.price input = .ok price ↔ price.toNat = tariff base perWord input.length
  /-- All other inputs are out of reach for any gas. -/
  price_eq_error_iff {input : Bytes} {failure : Failure} (hinput : input.length < Nat.pow 2 63) :
    p.price input = .error failure ↔
      failure = .outOfGas ∧ Nat.pow 2 64 ≤ tariff base perWord input.length
  /-- A longer input is never cheaper. -/
  fee_mono {short long : Bytes} (h : short.length ≤ long.length) : p.fee short ≤ p.fee long
  /-- A frame that can pay the tariff pays it exactly, and the contract runs. -/
  run_of_le {frame : Frame} {input : Bytes} (hinput : input.length < Nat.pow 2 63)
    (hgas : tariff base perWord input.length ≤ frame.gasRemaining.toNat) :
    ∃ left : UInt64, left.toNat + tariff base perWord input.length = frame.gasRemaining.toNat ∧
      p.run frame input = (p.answer input, { frame with gasRemaining := left })
  /-- A frame that cannot is out of gas and stays as it is. -/
  run_of_lt {frame : Frame} {input : Bytes} (hinput : input.length < Nat.pow 2 63)
    (hgas : frame.gasRemaining.toNat < tariff base perWord input.length) :
    p.run frame input = (.error .outOfGas, frame)

section PricedByWord

variable {name : String} {base perWord : UInt64} {answer : Bytes → Bytes}

/-- There is a price exactly if the counters have room for the length and for the tariff. -/
theorem price_pricedByWord_eq_ok_iff :
    (pricedByWord name base perWord answer).price input = .ok price ↔
      input.length + 31 < Nat.pow 2 64 ∧
        price.toNat = tariff base.toNat perWord.toNat input.length := by
  rw [← wordPrice?_eq_some_iff]
  show (wordPrice? base perWord input.length).elim (Except.error Failure.outOfGas) Except.ok =
    .ok price ↔ _
  cases wordPrice? base perWord input.length with
  | none => simp only [Option.elim_none, reduceCtorEq]
  | some price' => simp only [Option.elim_some, Except.ok.injEq, Option.some.injEq]

theorem price_pricedByWord_eq_error_iff (h : input.length + 31 < Nat.pow 2 64) :
    (pricedByWord name base perWord answer).price input = .error failure ↔
      failure = .outOfGas ∧ Nat.pow 2 64 ≤ tariff base.toNat perWord.toNat input.length := by
  show (wordPrice? base perWord input.length).elim (Except.error Failure.outOfGas) Except.ok =
    .error failure ↔ _
  rw [wordPrice?_eq h, Checked.ofNat]
  split
  · next hlt =>
    simp only [Option.elim_some, reduceCtorEq, Nat.not_le.2 hlt, and_false]
  · next hle =>
    simp only [Option.elim_none, Except.error.injEq, Nat.not_lt.1 hle, and_true, eq_comm]

theorem fee_eq_of_price_eq_ok (h : p.price input = .ok price) : p.fee input = price.toNat := by
  rw [fee, h]

theorem fee_pricedByWord_mono {short long : Bytes} (h : short.length ≤ long.length) :
    (pricedByWord name base perWord answer).fee short ≤
      (pricedByWord name base perWord answer).fee long := by
  cases hlong : (pricedByWord name base perWord answer).price long with
  | error failure =>
    rw [fee, fee, hlong]
    exact le_top
  | ok price =>
    obtain ⟨hroom, hprice⟩ := price_pricedByWord_eq_ok_iff.1 hlong
    have hle : tariff base.toNat perWord.toNat short.length ≤ price.toNat :=
      hprice ▸ tariff_mono _ _ h
    obtain ⟨price', hprice'⟩ :=
      Checked.exists_toNat_eq (Nat.lt_of_le_of_lt hle price.toNat_lt)
    have hshort : (pricedByWord name base perWord answer).price short = .ok price' :=
      price_pricedByWord_eq_ok_iff.2 ⟨by omega, hprice'⟩
    rw [fee_eq_of_price_eq_ok hshort, fee_eq_of_price_eq_ok hlong, hprice']
    exact Nat.cast_le.2 hle

/-- **A contract that is priced by the word charges by the word**, whatever its two prices. -/
theorem chargesByWord_pricedByWord (name : String) (base perWord : UInt64)
    (answer : Bytes → Bytes) :
    (pricedByWord name base perWord answer).ChargesByWord base.toNat perWord.toNat := by
  have hroom {input : Bytes} (hinput : input.length < Nat.pow 2 63) :
      input.length + 31 < Nat.pow 2 64 := by
    simp only [Nat.pow_eq] at hinput ⊢
    omega
  constructor
  case price_eq_ok_iff =>
    intro input price hinput
    rw [price_pricedByWord_eq_ok_iff]
    exact and_iff_right (hroom hinput)
  case price_eq_error_iff =>
    intro input failure hinput
    exact price_pricedByWord_eq_error_iff (hroom hinput)
  case fee_mono =>
    intro short long h
    exact fee_pricedByWord_mono h
  case run_of_le =>
    intro frame input hinput hgas
    obtain ⟨price, hprice⟩ :=
      Checked.exists_toNat_eq (Nat.lt_of_le_of_lt hgas frame.gasRemaining.toNat_lt)
    have hle : price ≤ frame.gasRemaining := by rwa [UInt64.le_iff_toNat_le, hprice]
    refine ⟨frame.gasRemaining - price, ?_, ?_⟩
    · rw [← hprice, UInt64.toNat_sub_of_le _ _ hle]
      exact Nat.sub_add_cancel (UInt64.le_iff_toNat_le.1 hle)
    · exact run_of_price_le (price_pricedByWord_eq_ok_iff.2 ⟨hroom hinput, hprice⟩) hle
  case run_of_lt =>
    intro frame input hinput hgas
    by_cases hlt : tariff base.toNat perWord.toNat input.length < Nat.pow 2 64
    · obtain ⟨price, hprice⟩ := Checked.exists_toNat_eq hlt
      have hfew : frame.gasRemaining < price := by rwa [UInt64.lt_iff_toNat_lt, hprice]
      exact run_of_lt_price (price_pricedByWord_eq_ok_iff.2 ⟨hroom hinput, hprice⟩) hfew
    · -- no counter holds that much, let alone the one of the frame
      refine run_of_price_eq_error ?_
      exact (price_pricedByWord_eq_error_iff (hroom hinput)).2 ⟨rfl, Nat.not_lt.1 hlt⟩

end PricedByWord

/-! ### The standard contracts -/

/-- The addresses of the standard contracts, each with its base price and its price for a word. -/
def standardTariffs : List (Address × Nat × Nat) :=
  [(2, 60, 12), (3, 600, 120), (4, 15, 3)]

/-- **The three standard contracts charge by the word.** -/
theorem standard_chargesByWord {a : Address} {base perWord : Nat}
    (h : (a, base, perWord) ∈ standardTariffs) :
    ∃ p, PrecompileSet.standard[a]? = some p ∧ p.ChargesByWord base perWord := by
  simp only [standardTariffs, List.mem_cons, Prod.mk.injEq, List.not_mem_nil, or_false] at h
  rcases h with ⟨rfl, rfl, rfl⟩ | ⟨rfl, rfl, rfl⟩ | ⟨rfl, rfl, rfl⟩
  · exact ⟨sha256, rfl, chargesByWord_pricedByWord ..⟩
  · exact ⟨ripemd160, rfl, chargesByWord_pricedByWord ..⟩
  · exact ⟨identity, rfl, chargesByWord_pricedByWord ..⟩

/-- The longest input that RIPEMD-160 has a price for.  One byte more would cost just over `2 ^ 64`,
and no frame gets it for the little that is left of that number in a counter. -/
theorem standard_chargesByWord_longest :
    (3, 600, 120) ∈ standardTariffs ∧ ∃ p, PrecompileSet.standard[(3 : Address)]? = some p ∧
      p.price (List.replicate 4919131752989213600 0) = .ok 18446744073709551600 ∧
      p.price (List.replicate 4919131752989213601 0) = .error .outOfGas ∧
      ∀ frame, p.run frame (List.replicate 4919131752989213601 0) = (.error .outOfGas, frame) := by
  have hmem : (3, 600, 120) ∈ standardTariffs := by decide
  have hshort {n : Nat} (h : n < Nat.pow 2 63) :
      (List.replicate n (0 : UInt8)).length < Nat.pow 2 63 := by
    rwa [List.length_replicate]
  obtain ⟨p, hp, hcharge⟩ := standard_chargesByWord hmem
  refine ⟨hmem, p, hp, ?_, ?_, ?_⟩
  · rw [hcharge.price_eq_ok_iff (hshort (by decide)), List.length_replicate]
    rfl
  · rw [hcharge.price_eq_error_iff (hshort (by decide)), List.length_replicate]
    exact ⟨rfl, by decide⟩
  · intro frame
    refine hcharge.run_of_lt (hshort (by decide)) ?_
    rw [List.length_replicate]
    exact Nat.lt_of_lt_of_le frame.gasRemaining.toNat_lt (by decide)

end Precompile

end CallWatch
