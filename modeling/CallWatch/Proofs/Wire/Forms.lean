import CallWatch.Proofs.Json.Reading
import CallWatch.Proofs.Text.Decimal
import CallWatch.Wire.Form

/-!
# Forms that read back what they write

`Form.Recovers` says of a value that its form writes plain JSON and reads that as the same value;
its text is then read back as well (`Form.Recovers.parse?_print`).

A record recovers if its fields do: its members have different names, so each of them is found by
its name (`Form.fields?_record`), whether or not those that may be left out are there.
-/

namespace CallWatch

namespace Form

variable {α : Type} {form : Form α}

/-- What the form writes for the value is plain, and is read as that value. -/
structure Recovers (form : Form α) (a : α) : Prop where
  isPlain : (form.write a).IsPlain
  read? : form.read? (form.write a) = some a

/-- **The text of a value that is recovered is read as that value.** -/
theorem Recovers.parse?_print {a : α} (h : form.Recovers a) :
    form.parse? (form.print a) = some a := by
  rw [parse?, print, Json.parse?_render h.isPlain, Option.bind_some, h.read?]

/-! ### Plain values -/

theorem text_recovers (s : String) : text.Recovers s := ⟨trivial, rfl⟩

theorem flag_recovers (b : Bool) : flag.Recovers b := ⟨trivial, rfl⟩

theorem fitsNumber_toNat (n : UInt64) : Json.FitsNumber n.toNat :=
  ⟨by omega, Int.ofNat_lt.2 n.toNat_lt⟩

theorem counter_recovers (n : UInt64) : counter.Recovers n where
  isPlain := fitsNumber_toNat n
  read? := Checked.ofNat_eq_some_iff.2 rfl

/-- A text of a certain shape recovers what it is read as. -/
theorem shaped_recovers {toText : α → String} {ofText? : String → Option α} {a : α}
    (h : ofText? (toText a) = some a) : (shaped toText ofText?).Recovers a :=
  ⟨trivial, h⟩

theorem address_recovers (a : Address) : address.Recovers a :=
  shaped_recovers (Address.ofHex?_toHex a)

theorem digest_recovers (w : Word) : digest.Recovers w :=
  shaped_recovers (Word.ofHex?_toHex w)

theorem quantity_recovers (w : Word) : quantity.Recovers w :=
  shaped_recovers (Word.ofQuantity?_quantity w)

theorem decimal_recovers (w : Word) : decimal.Recovers w :=
  shaped_recovers (by rw [Decimal.decode_encode]; rfl)

theorem bytes_recovers (b : Bytes) : bytes.Recovers b :=
  shaped_recovers (by rw [Hex.decode_encode]; rfl)

/-! ### Compound values -/

theorem list_recovers {as : List α} (h : ∀ a ∈ as, form.Recovers a) :
    (list form).Recovers as := by
  induction as with
  | nil => exact ⟨trivial, rfl⟩
  | cons a as ih =>
    have ha := h a List.mem_cons_self
    have has := ih fun a ha => h a (List.mem_cons_of_mem _ ha)
    refine ⟨⟨ha.isPlain, has.isPlain⟩, ?_⟩
    have hread : (as.map form.write).mapM form.read? = some as := has.read?
    show ((a :: as).map form.write).mapM form.read? = _
    rw [List.map_cons, List.mapM_cons, ha.read?, hread]
    rfl

/-- A value that may be missing recovers if it does not look as if it were. -/
theorem optional_recovers {a? : Option α} (h : ∀ a ∈ a?, form.Recovers a)
    (hnull : ∀ a ∈ a?, form.write a ≠ .null) : (optional form).Recovers a? := by
  cases a? with
  | none => exact ⟨trivial, rfl⟩
  | some a =>
    have hread := (h a rfl).read?
    have hwrite := hnull a rfl
    refine ⟨(h a rfl).isPlain, ?_⟩
    show (optional form).read? (form.write a) = _
    generalize form.write a = v at hread hwrite ⊢
    cases v with
    | null => exact (hwrite rfl).elim
    | _ => exact congrArg (Option.map some) hread

/-- A map is what its entries make of it. -/
theorem ofList_toList (m : Std.ExtTreeMap Word Word) : Std.ExtTreeMap.ofList m.toList = m := by
  refine Std.ExtTreeMap.ext_getElem? fun k => ?_
  cases hk : m[k]? with
  | some v =>
    exact Std.ExtTreeMap.getElem?_ofList_of_mem Std.ReflCmp.compare_self m.distinct_keys_toList
      (Std.ExtTreeMap.mem_toList_iff_getElem?_eq_some.2 hk)
  | none =>
    refine Std.ExtTreeMap.getElem?_ofList_of_contains_eq_false ?_
    rw [Std.ExtTreeMap.map_fst_toList_eq_keys, Std.ExtTreeMap.contains_keys,
      ← Std.ExtTreeMap.isSome_getElem?_eq_contains, hk]
    rfl

/-- Entries in writing are put into the map one after the other. -/
theorem foldlM_entries (entries : List (Word × Word)) (m : Std.ExtTreeMap Word Word) :
    (entries.map fun (k, v) => (k.toHex, digest.write v)).foldlM
        (fun m (name, v) => do return m.insert (← Word.ofHex? name) (← digest.read? v)) m =
      some (entries.foldl (fun m entry => m.insert entry.1 entry.2) m) := by
  induction entries generalizing m with
  | nil => rfl
  | cons entry entries ih =>
    obtain ⟨k, v⟩ := entry
    simp only [List.map_cons, List.foldlM_cons, Word.ofHex?_toHex, (digest_recovers v).read?,
      List.foldl_cons]
    exact ih _

theorem wordMap_recovers (m : Std.ExtTreeMap Word Word) : wordMap.Recovers m where
  isPlain := by
    show Json.ArePlainMembers (m.toList.map _)
    induction m.toList with
    | nil => trivial
    | cons entry entries ih => exact ⟨(digest_recovers entry.2).isPlain, ih⟩
  read? := by
    show List.foldlM _ _ (m.toList.map _) = _
    rw [foldlM_entries, ← Std.ExtTreeMap.ofList_eq_foldl, ofList_toList]

/-! ### Records -/

/-- The members of a record whose fields have these names; those without a value are left out. -/
def members : List String → List (Option Json) → List (String × Json)
  | name :: names, some v :: values => (name, v) :: members names values
  | _ :: names, none :: values => members names values
  | _, _ => []

theorem members_cons (name : String) (names : List String) (value : Option Json)
    (values : List (Option Json)) :
    members (name :: names) (value :: values) =
      (value.map (name, ·)).toList ++ members names values := by
  cases value <;> rfl

theorem mem_names_of_mem_members {names : List String} {values : List (Option Json)}
    {m : String × Json} (h : m ∈ members names values) : m.1 ∈ names := by
  induction names generalizing values with
  | nil => cases values <;> cases h
  | cons name names ih =>
    cases values with
    | nil => cases h
    | cons value values =>
      rw [members_cons, List.mem_append] at h
      rcases h with h | h
      · cases value with
        | none => cases h
        | some v =>
          rw [List.mem_singleton.1 h]
          exact List.mem_cons_self
      · exact List.mem_cons_of_mem _ (ih h)

/-- No member has a name that is none of the names. -/
theorem filter_name_eq_nil {name : String} {ms : List (String × Json)}
    (h : ∀ m ∈ ms, m.1 ≠ name) : ms.filter (·.1 = name) = [] :=
  List.filter_eq_nil_iff.2 fun m hm => by simpa using h m hm

/-- The fields are found behind members with other names. -/
theorem mapM_atMostOne? {names : List String} {values : List (Option Json)}
    (hlength : names.length = values.length) (hnodup : names.Nodup)
    (before : List (String × Json)) (hbefore : ∀ m ∈ before, m.1 ∉ names) :
    (names.mapM fun name =>
        atMostOne? (((before ++ members names values).filter (·.1 = name)).map (·.2))) =
      some values := by
  induction names generalizing values before with
  | nil =>
    rw [List.eq_nil_of_length_eq_zero hlength.symm]
    rfl
  | cons name names ih =>
    cases values with
    | nil => cases hlength
    | cons value values =>
      obtain ⟨hname, hnodup⟩ := List.nodup_cons.1 hnodup
      have hfront : before.filter (·.1 = name) = [] :=
        filter_name_eq_nil fun m hm heq => hbefore m hm (heq ▸ List.mem_cons_self)
      have hbehind : (members names values).filter (·.1 = name) = [] :=
        filter_name_eq_nil fun m hm heq => hname (heq ▸ mem_names_of_mem_members hm)
      have hhead : ((value.map (name, ·)).toList.filter (·.1 = name)).map (·.2) = value.toList := by
        cases value <;> simp
      have htail := ih (Nat.succ.inj hlength) hnodup (before ++ (value.map (name, ·)).toList)
        (by
          intro m hm hmem
          rcases List.mem_append.1 hm with hm | hm
          · exact hbefore m hm (List.mem_cons_of_mem _ hmem)
          · cases value with
            | none => cases hm
            | some v =>
              rw [List.mem_singleton.1 hm] at hmem
              exact hname hmem)
      rw [List.append_assoc] at htail
      rw [members_cons, List.mapM_cons, htail, List.filter_append, List.filter_append, hfront,
        hbehind, List.nil_append, List.append_nil, hhead]
      cases value <;> rfl

/-- **The fields of a record are found by their names.** -/
theorem fields?_members {names : List String} {values : List (Option Json)} {v : Json}
    (hv : v = .object (members names values)) (hlength : names.length = values.length)
    (hnodup : names.Nodup) (spare : Nat) : fields? names spare v = some values := by
  subst hv
  exact mapM_atMostOne? hlength hnodup [] nofun

theorem arePlainMembers_append {ms ms' : List (String × Json)} :
    Json.ArePlainMembers (ms ++ ms') ↔ Json.ArePlainMembers ms ∧ Json.ArePlainMembers ms' := by
  induction ms with
  | nil => exact ⟨fun h => ⟨trivial, h⟩, And.right⟩
  | cons m ms ih => exact (and_congr_right fun _ => ih).trans and_assoc.symm

section Fields

variable {a default : α} {a? : Option α}

theorem Recovers.required? (h : form.Recovers a) :
    Form.required? form (some (form.write a)) = some a :=
  h.read?

theorem Recovers.defaulted? (h : form.Recovers a) :
    Form.defaulted? form default (some (form.write a)) = some a :=
  h.read?

theorem Recovers.defaulted?_optional (h : (optional form).Recovers a?) :
    Form.defaulted? (optional form) none (a?.map form.write) = some a? := by
  cases a? with
  | none => rfl
  | some a => exact h.read?

/-- A member that may be left out is plain if its value is. -/
theorem Recovers.arePlainMembers_member (h : (optional form).Recovers a?) (name : String) :
    Json.ArePlainMembers (member name form a?) := by
  cases a? with
  | none => trivial
  | some a => exact ⟨h.isPlain, trivial⟩

end Fields

/-! ### Alternatives -/

theorem alternative?_carrying (name : String) (form : Form α) (a : α) :
    alternative? (carrying name form a) = some (name, some (form.write a)) := rfl

theorem Recovers.isPlain_carrying {a : α} (h : form.Recovers a) (name : String) :
    (carrying name form a).IsPlain :=
  ⟨h.isPlain, trivial⟩

end Form

end CallWatch
