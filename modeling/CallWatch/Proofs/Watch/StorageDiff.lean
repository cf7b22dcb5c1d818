import CallWatch.Watch.StorageDiff
import Mathlib.Data.List.Induction
import Mathlib.Tactic.Common

/-!
# What a storage difference holds

A write is recorded as two values: what the slot held, and what it is to hold.  `StorageDiff.write`
takes both, and `before_write` and `after_write` say what is then found at every location.  It does
not matter how often a write is recorded (`write_write`).

After any list of records, what is found at a location follows from the values recorded for that
location alone, `valuesAt`: the first of them is in `before` (`before_ofRecords`), and the last of
them is in `after` unless it is the first again (`after_ofRecords`).
-/

namespace CallWatch

namespace StorageDiff

/-- Takes a write: the value before it and the new one. -/
def write (diff : StorageDiff) (key current value : Word) : StorageDiff :=
  (diff.record key current).record key value

/-- The first record of a location stays. -/
theorem before_record (diff : StorageDiff) (location value key : Word) :
    (diff.record location value).before[key]? =
      if location = key then some (diff.before[key]?.getD value) else diff.before[key]? := by
  unfold record
  by_cases hkey : location = key
  · subst hkey
    rw [if_pos rfl]
    cases hfirst : diff.before[location]? with
    | none => simp only [Std.ExtTreeMap.getElem?_insert_self, Option.getD_none]
    | some first =>
      simp only [Option.getD_some]
      split <;> exact hfirst
  · rw [if_neg hkey]
    split
    · simp only [Std.ExtTreeMap.getElem?_insert, Std.compare_eq_iff_eq, if_neg hkey]
    · split <;> rfl

/-- A record of a location that was seen before is kept if it differs from the first one. -/
theorem after_record {diff : StorageDiff} {location first : Word}
    (hfirst : diff.before[location]? = some first) (value key : Word) :
    (diff.record location value).after[key]? =
      if location = key then if first = value then none else some value
      else diff.after[key]? := by
  unfold record
  rw [hfirst]
  dsimp only
  by_cases hkey : location = key
  · subst hkey
    rw [if_pos rfl]
    by_cases hvalue : first = value
    · rw [if_pos hvalue, if_pos hvalue]
      exact Std.ExtTreeMap.getElem?_erase_self
    · rw [if_neg hvalue, if_neg hvalue]
      exact Std.ExtTreeMap.getElem?_insert_self
  · rw [if_neg hkey]
    split
    · simp only [Std.ExtTreeMap.getElem?_erase, Std.compare_eq_iff_eq, if_neg hkey]
    · simp only [Std.ExtTreeMap.getElem?_insert, Std.compare_eq_iff_eq, if_neg hkey]

/-- The first record of a location leaves `after` alone. -/
theorem after_record_of_new {diff : StorageDiff} {location : Word}
    (hnew : diff.before[location]? = none) (value : Word) :
    (diff.record location value).after = diff.after := by
  rw [record, hnew]

/-! ### One write -/

theorem before_write (diff : StorageDiff) (location current value key : Word) :
    (diff.write location current value).before[key]? =
      if location = key then some (diff.before[key]?.getD current) else diff.before[key]? := by
  rw [write, before_record, before_record]
  by_cases hkey : location = key
  · simp only [if_pos hkey, Option.getD_some]
  · simp only [if_neg hkey]

/-- A write counts as a change if it leaves another value than the first that was seen. -/
theorem after_write (diff : StorageDiff) (location current value key : Word) :
    (diff.write location current value).after[key]? =
      if location = key then
        if diff.before[key]?.getD current = value then none else some value
      else diff.after[key]? := by
  have hfirst : (diff.record location current).before[location]? =
      some (diff.before[location]?.getD current) := by
    rw [before_record, if_pos rfl]
  rw [write, after_record hfirst]
  by_cases hkey : location = key
  · subst hkey
    rw [if_pos rfl, if_pos rfl]
  · simp only [if_neg hkey]
    cases hseen : diff.before[location]? with
    | none => rw [after_record_of_new hseen]
    | some first => rw [after_record hseen, if_neg hkey]

theorem eq_of_getElem? {diff diff' : StorageDiff}
    (hbefore : ∀ key : Word, diff.before[key]? = diff'.before[key]?)
    (hafter : ∀ key : Word, diff.after[key]? = diff'.after[key]?) : diff = diff' := by
  cases diff
  congr
  · exact Std.ExtTreeMap.ext_getElem? hbefore
  · exact Std.ExtTreeMap.ext_getElem? hafter

/-- **A write that is recorded twice counts once.** -/
theorem write_write (diff : StorageDiff) (location current value : Word) :
    (diff.write location current value).write location current value =
      diff.write location current value := by
  apply eq_of_getElem?
  · intro key
    rw [before_write]
    by_cases hkey : location = key
    · rw [if_pos hkey, before_write, if_pos hkey, Option.getD_some]
    · rw [if_neg hkey]
  · intro key
    rw [after_write]
    by_cases hkey : location = key
    · rw [if_pos hkey, before_write, if_pos hkey, Option.getD_some, after_write, if_pos hkey]
    · rw [if_neg hkey]

/-! ### A list of records -/

/-- The values recorded for a location, in order. -/
def valuesAt (key : Word) (records : List (Word × Word)) : List Word :=
  (records.filter (·.1 = key)).map (·.2)

theorem valuesAt_append (key : Word) (records others : List (Word × Word)) :
    valuesAt key (records ++ others) = valuesAt key records ++ valuesAt key others := by
  rw [valuesAt, List.filter_append, List.map_append]
  rfl

theorem valuesAt_singleton (key location value : Word) :
    valuesAt key [(location, value)] = if location = key then [value] else [] := by
  by_cases hkey : location = key
  · rw [if_pos hkey, valuesAt, List.filter_cons_of_pos (by simpa using hkey)]
    rfl
  · rw [if_neg hkey, valuesAt, List.filter_cons_of_neg (by simpa using hkey)]
    rfl

theorem valuesAt_concat_self (key value : Word) (records : List (Word × Word)) :
    valuesAt key (records ++ [(key, value)]) = valuesAt key records ++ [value] := by
  rw [valuesAt_append, valuesAt_singleton, if_pos rfl]

theorem valuesAt_concat_ne {key location : Word} (hne : location ≠ key) (value : Word)
    (records : List (Word × Word)) :
    valuesAt key (records ++ [(location, value)]) = valuesAt key records := by
  rw [valuesAt_append, valuesAt_singleton, if_neg hne, List.append_nil]

theorem valuesAt_ne_nil {key : Word} {records : List (Word × Word)} :
    valuesAt key records ≠ [] ↔ ∃ value, (key, value) ∈ records := by
  constructor
  · intro hne
    obtain ⟨value, hvalue⟩ := List.exists_mem_of_ne_nil _ hne
    simp only [valuesAt, List.mem_map, List.mem_filter, decide_eq_true_eq] at hvalue
    obtain ⟨⟨location, _⟩, ⟨hrecord, rfl⟩, rfl⟩ := hvalue
    exact ⟨_, hrecord⟩
  · rintro ⟨value, hrecord⟩
    have hvalue : value ∈ valuesAt key records :=
      List.mem_map.2 ⟨_, List.mem_filter.2 ⟨hrecord, decide_eq_true rfl⟩, rfl⟩
    exact List.ne_nil_of_mem hvalue

theorem ofRecords_concat (records : List (Word × Word)) (location value : Word) :
    ofRecords (records ++ [(location, value)]) = (ofRecords records).record location value := by
  rw [ofRecords, List.foldl_append]
  rfl

/-- `before` holds the first value recorded for a location. -/
theorem before_ofRecords (records : List (Word × Word)) (key : Word) :
    (ofRecords records).before[key]? = (valuesAt key records).head? := by
  induction records using List.reverseRecOn with
  | nil => exact Std.ExtTreeMap.getElem?_empty
  | append_singleton records last ih =>
    obtain ⟨location, value⟩ := last
    rw [ofRecords_concat, before_record, ih]
    by_cases hkey : location = key
    · subst hkey
      rw [if_pos rfl, valuesAt_concat_self, List.head?_append]
      cases (valuesAt location records).head? <;> rfl
    · rw [if_neg hkey, valuesAt_concat_ne hkey]

/-- `after` holds the last value recorded for a location, unless that is the first one again. -/
theorem after_ofRecords (records : List (Word × Word)) (key : Word) :
    (ofRecords records).after[key]? =
      if (valuesAt key records).head? = (valuesAt key records).getLast? then none
      else (valuesAt key records).getLast? := by
  induction records using List.reverseRecOn with
  | nil => exact Std.ExtTreeMap.getElem?_empty
  | append_singleton records last ih =>
    obtain ⟨location, value⟩ := last
    have hbefore := before_ofRecords records location
    rw [ofRecords_concat]
    cases hseen : (ofRecords records).before[location]? with
    | none =>
      rw [after_record_of_new hseen, ih]
      by_cases hkey : location = key
      · -- the one value there is is both the first and the last
        subst hkey
        have hnil : valuesAt location records = [] := by
          rw [← List.head?_eq_none_iff, ← hbefore, hseen]
        rw [valuesAt_concat_self, hnil]
        simp only [List.head?_nil, List.getLast?_nil, List.nil_append, List.head?_cons,
          List.getLast?_singleton, if_true]
      · rw [valuesAt_concat_ne hkey]
    | some first =>
      rw [after_record hseen]
      by_cases hkey : location = key
      · subst hkey
        have hhead : (valuesAt location records ++ [value]).head? = some first := by
          rw [List.head?_append, ← hbefore, hseen]
          rfl
        simp only [valuesAt_concat_self, hhead, List.getLast?_concat, Option.some.injEq, if_true]
      · rw [if_neg hkey, ih, valuesAt_concat_ne hkey]

theorem mem_before_ofRecords {records : List (Word × Word)} {key : Word} :
    key ∈ (ofRecords records).before ↔ ∃ value, (key, value) ∈ records := by
  rw [Std.ExtTreeMap.mem_iff_isSome_getElem?, before_ofRecords, List.isSome_head?]
  exact valuesAt_ne_nil

theorem mem_after_ofRecords {records : List (Word × Word)} {key : Word} :
    key ∈ (ofRecords records).after ↔
      (valuesAt key records).getLast? ≠ (valuesAt key records).head? := by
  rw [Std.ExtTreeMap.mem_iff_isSome_getElem?, after_ofRecords]
  by_cases hsame : (valuesAt key records).head? = (valuesAt key records).getLast?
  · rw [if_pos hsame, hsame]
    simp only [Option.isSome_none, Bool.false_eq_true, ne_eq, not_true]
  · -- a location without a last value has no first one either
    have hne : valuesAt key records ≠ [] := by
      intro hnil
      exact hsame (by rw [hnil]; rfl)
    rw [if_neg hsame, List.getLast?_eq_some_getLast hne] at *
    exact iff_of_true rfl (Ne.symm hsame)

/-- What is found in `after` is the last value, and not the first. -/
theorem last_of_after {records : List (Word × Word)} {key last : Word}
    (hlast : (ofRecords records).after[key]? = some last) :
    (valuesAt key records).getLast? = some last ∧
      ∃ first, (ofRecords records).before[key]? = some first ∧ first ≠ last := by
  rw [after_ofRecords] at hlast
  split at hlast
  · cases hlast
  · next hdiffers =>
    refine ⟨hlast, ?_⟩
    rw [before_ofRecords]
    cases hvalues : valuesAt key records with
    | nil => rw [hvalues] at hlast; cases hlast
    | cons first rest =>
      refine ⟨first, rfl, ?_⟩
      rintro rfl
      exact hdiffers (by rw [hlast, hvalues]; rfl)

/-- A difference is made of what each location saw, whatever came in between. -/
theorem ofRecords_congr {records others : List (Word × Word)}
    (hvalues : ∀ key, valuesAt key others = valuesAt key records) :
    ofRecords others = ofRecords records := by
  apply eq_of_getElem?
  · intro key
    rw [before_ofRecords, before_ofRecords, hvalues]
  · intro key
    rw [after_ofRecords, after_ofRecords, hvalues]

/-- **A difference is the net change of the records.**  A location is found in `before` if it was
recorded, with the first of its values, and in `after` if the last of its values is not the first,
with that last one.  So what is found in `after` is found in `before` with another value, and
records that show each location the same values in the same order make the same difference, however
the locations take turns. -/
theorem ofRecords_netChange (records : List (Word × Word)) :
    (∀ key,
      (key ∈ (ofRecords records).before ↔ ∃ value, (key, value) ∈ records) ∧
      (ofRecords records).before[key]? = (valuesAt key records).head? ∧
      (key ∈ (ofRecords records).after ↔
        (valuesAt key records).getLast? ≠ (valuesAt key records).head?) ∧
      ∀ last, (ofRecords records).after[key]? = some last →
        (valuesAt key records).getLast? = some last ∧
          ∃ first, (ofRecords records).before[key]? = some first ∧ first ≠ last) ∧
    ∀ others, (∀ key, valuesAt key others = valuesAt key records) →
      ofRecords others = ofRecords records := by
  refine ⟨fun key => ?_, fun others hvalues => ofRecords_congr hvalues⟩
  exact ⟨mem_before_ofRecords, before_ofRecords records key, mem_after_ofRecords,
    fun last hlast => last_of_after hlast⟩

/-- A slot that is left and a slot that is written once, taking turns or one after the other. -/
theorem ofRecords_netChange_turns :
    ofRecords [(1, 5), (1, 6), (2, 9)] = ofRecords [(1, 5), (2, 9), (1, 6)] := by
  refine (ofRecords_netChange [(1, 5), (2, 9), (1, 6)]).2 [(1, 5), (1, 6), (2, 9)] fun key => ?_
  by_cases hone : (1 : Word) = key
  · subst hone
    rfl
  · simp only [valuesAt, List.filter_cons, hone, decide_false, Bool.false_eq_true, if_false]

end StorageDiff

end CallWatch
