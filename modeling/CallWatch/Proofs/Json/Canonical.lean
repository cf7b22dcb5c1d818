import CallWatch.Json.Basic
import Mathlib.Data.String.Basic

/-!
# Sorted values

A value is sorted if the names of the members of each of its objects ascend.  **A sorted value is
its own canonical form** (`Json.canonical_of_isSorted`).
-/

namespace CallWatch.Json

mutual

/-- Whether the names of the members ascend in every object. -/
def IsSorted : Json → Prop
  | array items => AreSorted items
  | object members => (members.map (·.1)).Pairwise (· < ·) ∧ AreSortedMembers members
  | _ => True

/-- Whether all items are sorted. -/
def AreSorted : List Json → Prop
  | [] => True
  | v :: rest => IsSorted v ∧ AreSorted rest

/-- Whether the values of all members are sorted. -/
def AreSortedMembers : List (String × Json) → Prop
  | [] => True
  | (_, v) :: rest => IsSorted v ∧ AreSortedMembers rest

end

/-- A member with a greater name than all others has its place behind them. -/
theorem insertMember_of_lt {name : String} {v : Json} {sorted : List (String × Json)}
    (h : ∀ m ∈ sorted, m.1 < name) : insertMember name v sorted = sorted ++ [(name, v)] := by
  induction sorted with
  | nil => rfl
  | cons m sorted ih =>
    obtain ⟨other, w⟩ := m
    have hother : other < name := h _ List.mem_cons_self
    rw [insertMember, if_neg (lt_asymm hother), if_neg hother.ne',
      ih fun m hm => h m (List.mem_cons_of_mem _ hm)]
    rfl

mutual

/-- **A sorted value is its own canonical form.** -/
theorem canonical_of_isSorted {v : Json} (h : v.IsSorted) : v.canonical = v := by
  match v with
  | null | bool _ | number _ | real _ | string _ | unreadable => rfl
  | array items => exact congrArg array (canonicalItems_of_areSorted h)
  | object members => exact congrArg object (canonicalMembers_of_areSortedMembers h.1 h.2)

theorem canonicalItems_of_areSorted {items : List Json} (h : AreSorted items) :
    canonicalItems items = items := by
  match items with
  | [] => rfl
  | v :: items =>
    rw [canonicalItems, canonical_of_isSorted h.1, canonicalItems_of_areSorted h.2]

theorem canonicalMembers_of_areSortedMembers {sorted members : List (String × Json)}
    (hnames : ((sorted ++ members).map (·.1)).Pairwise (· < ·)) (h : AreSortedMembers members) :
    canonicalMembers sorted members = sorted ++ members := by
  match members with
  | [] => rw [canonicalMembers, List.append_nil]
  | (name, v) :: members =>
    have hbelow (m : String × Json) (hm : m ∈ sorted) : m.1 < name := by
      rw [List.map_append] at hnames
      exact (List.pairwise_append.1 hnames).2.2 _ (List.mem_map_of_mem hm) name List.mem_cons_self
    have hsplit : sorted ++ (name, v) :: members = (sorted ++ [(name, v)]) ++ members := by
      rw [List.append_assoc, List.singleton_append]
    rw [canonicalMembers, canonical_of_isSorted h.1, insertMember_of_lt hbelow, hsplit]
    exact canonicalMembers_of_areSortedMembers (hsplit ▸ hnames) h.2

end

end CallWatch.Json
