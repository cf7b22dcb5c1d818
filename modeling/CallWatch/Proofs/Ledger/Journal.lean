import CallWatch.Ledger.Basic
import Mathlib.Tactic.Common

/-!
# Taking changes back

`l.Precedes l'` says that the ledger `l'` came from `l` by changes that its journal can take back.
It is a preorder, every operation but `revert` leads forward along it (`Precedes.perform`), and
going back to the mark of `l` gives `l` again, accounts and journal alike (`Precedes.revert_eq`).
Going back to a later mark does not lose `l` (`Precedes.revert`).
-/

namespace CallWatch

/-! ### Changing an account and changing it back -/

namespace Accounts

variable {m : Accounts} {a : Address}

theorem get_of_getElem? {account : Account} (h : m[a]? = some account) : m.get a = account := by
  rw [get, h, Option.getD_some]

theorem not_mem_of_getElem? (h : m[a]? = none) : a ∉ m := by
  intro ha
  rw [Std.ExtTreeMap.getElem?_eq_some_getElem ha] at h
  cases h

theorem getElem?_of_mem (h : a ∈ m) : m[a]? = some (m.get a) := by
  rw [get, Std.ExtTreeMap.getElem?_eq_some_getElem h, Option.getD_some]

theorem getElem?_update (b : Address) (f : Account → Account) :
    (m.update a f)[b]? = if a = b then m[a]?.map f else m[b]? := by
  rw [update, Std.ExtTreeMap.getElem?_modify]
  simp only [Std.compare_eq_iff_eq]

/-- A change of an account that is there is the same as putting the changed account there. -/
theorem update_eq_insert (h : a ∈ m) (f : Account → Account) :
    m.update a f = m.insert a (f (m.get a)) := by
  apply Std.ExtTreeMap.ext_getElem?
  intro b
  rw [getElem?_update, Std.ExtTreeMap.getElem?_insert, getElem?_of_mem h, Option.map_some]
  simp only [Std.compare_eq_iff_eq]

theorem update_update_cancel {f g : Account → Account} (h : g (f (m.get a)) = m.get a) :
    (m.update a f).update a g = m := by
  apply Std.ExtTreeMap.ext_getElem?
  intro b
  rw [getElem?_update, getElem?_update, getElem?_update, if_pos rfl]
  split
  · next hab =>
    subst hab
    cases ha : m[a]? with
    | none => rfl
    | some account =>
      rw [get_of_getElem? ha] at h
      rw [Option.map_some, Option.map_some, h]
  · -- both changes leave the other accounts alone
    rfl

theorem insert_erase_cancel {account : Account} (h : a ∉ m) : (m.insert a account).erase a = m := by
  apply Std.ExtTreeMap.ext_getElem?
  intro b
  rw [Std.ExtTreeMap.getElem?_erase, Std.ExtTreeMap.getElem?_insert]
  simp only [Std.compare_eq_iff_eq]
  split
  · next hab => rw [← hab, Std.ExtTreeMap.getElem?_eq_none h]
  · rfl

theorem insert_insert_cancel {old new : Account} (h : m[a]? = some old) :
    (m.insert a new).insert a old = m := by
  apply Std.ExtTreeMap.ext_getElem?
  intro b
  rw [Std.ExtTreeMap.getElem?_insert, Std.ExtTreeMap.getElem?_insert]
  simp only [Std.compare_eq_iff_eq]
  split
  · next hab => rw [← hab, h]
  · rfl

end Accounts

theorem Storage.restore_insert (s : Storage) (key value : Word) :
    Storage.restore (s.insert key value) key s[key]? = s := by
  apply Std.ExtTreeMap.ext_getElem?
  intro k
  cases hs : s[key]? with
  | none =>
    -- the slot was not there, so going back erases it
    rw [restore, Std.ExtTreeMap.getElem?_erase, Std.ExtTreeMap.getElem?_insert]
    simp only [Std.compare_eq_iff_eq]
    split
    · next hk => rw [← hk, hs]
    · rfl
  | some previous =>
    rw [restore, Std.ExtTreeMap.getElem?_insert, Std.ExtTreeMap.getElem?_insert]
    simp only [Std.compare_eq_iff_eq]
    split
    · next hk => rw [← hk, hs]
    · rfl

namespace Ledger

variable {l l' l'' : Ledger} {a : Address}

/-! ### The accounts after a write -/

theorem mem_touch (l : Ledger) (a : Address) : a ∈ (l.touch a).accounts := by
  unfold touch
  split
  · assumption
  · exact Std.ExtTreeMap.mem_insert_self

theorem get_touch (l : Ledger) (a b : Address) :
    (l.touch a).accounts.get b = l.accounts.get b := by
  unfold touch
  split
  · rfl
  next h =>
  simp only [Accounts.get, Std.ExtTreeMap.getElem?_insert, Std.compare_eq_iff_eq]
  split
  · next hab => rw [← hab, Std.ExtTreeMap.getElem?_eq_none h]; rfl
  · rfl

theorem insert_touch (l : Ledger) (a : Address) (account : Account) :
    (l.touch a).accounts.insert a account = l.accounts.insert a account := by
  unfold touch
  split
  · rfl
  apply Std.ExtTreeMap.ext_getElem?
  intro b
  simp only [Std.ExtTreeMap.getElem?_insert]
  split <;> rfl

/-- **A write puts the changed account in place**, whether or not there was one. -/
theorem accounts_write (l : Ledger) (a : Address) (undo : Account → Undo)
    (change : Account → Account) :
    (l.write a undo change).accounts = l.accounts.insert a (change (l.accounts.get a)) := by
  show (l.touch a).accounts.update a change = _
  rw [Accounts.update_eq_insert (mem_touch l a), get_touch, insert_touch]

/-! ### The order of ledgers -/

/-- `l'` came from `l` by changes that its journal can take back. -/
def Precedes (l l' : Ledger) : Prop :=
  ∃ recent, l'.journal = recent ++ l.journal ∧ recent.foldl Undo.apply l'.accounts = l.accounts

theorem Precedes.refl (l : Ledger) : l.Precedes l :=
  ⟨[], rfl, rfl⟩

theorem Precedes.trans (h : l.Precedes l') (h' : l'.Precedes l'') : l.Precedes l'' := by
  obtain ⟨recent, hj, ha⟩ := h
  obtain ⟨recent', hj', ha'⟩ := h'
  refine ⟨recent' ++ recent, ?_, ?_⟩
  · rw [hj', hj, List.append_assoc]
  · rw [List.foldl_append, ha', ha]

theorem Precedes.snapshot_le (h : l.Precedes l') : l.snapshot ≤ l'.snapshot := by
  obtain ⟨recent, hj, -⟩ := h
  rw [snapshot, snapshot, hj, List.length_append]
  exact Nat.le_add_left _ _

/-- **Going back to the mark of an earlier ledger gives that ledger.** -/
theorem Precedes.revert_eq (h : l.Precedes l') : l'.revert l.snapshot = .ok l := by
  have hle := h.snapshot_le
  obtain ⟨recent, hj, ha⟩ := h
  rw [revert, if_neg (by simpa only [snapshot, Nat.not_lt] using hle)]
  have hcount : l'.journal.length - l.snapshot = recent.length := by
    rw [hj, List.length_append, snapshot, Nat.add_sub_cancel]
  rw [undo, hcount, hj, List.take_left, List.drop_left, ha]

/-- Going back to a mark that is not older keeps what came before. -/
theorem Precedes.revert (h : l.Precedes l') {mark : Nat} (hmark : l.snapshot ≤ mark)
    (hr : l'.revert mark = .ok l'') : l.Precedes l'' := by
  obtain ⟨recent, hj, ha⟩ := h
  unfold Ledger.revert at hr
  split at hr
  · cases hr
  next hle =>
  obtain rfl := Except.ok.inj hr
  have hlen : l'.journal.length = recent.length + l.snapshot := by
    rw [hj, List.length_append, snapshot]
  -- the entries to be undone are among those that came since `l`
  set count := l'.journal.length - mark with hcount
  have hc : count ≤ recent.length := by omega
  refine ⟨recent.drop count, ?_, ?_⟩
  · show l'.journal.drop count = _
    rw [hj, List.drop_append_of_le_length hc]
  · show (recent.drop count).foldl Undo.apply ((l'.journal.take count).foldl _ _) = _
    rw [hj, List.take_append_of_le_length hc, ← List.foldl_append, List.take_append_drop, ha]

/-! ### Every operation leads forward -/

theorem precedes_touch (l : Ledger) (a : Address) : l.Precedes (l.touch a) := by
  unfold touch
  split
  · exact .refl l
  · next h => exact ⟨[.created a none], rfl, Accounts.insert_erase_cancel h⟩

/-- A write leads forward if its entry takes the change back. -/
theorem precedes_write {undo : Account → Undo} {change : Account → Account}
    (h : ∀ m : Accounts, (undo (m.get a)).apply (m.update a change) = m) :
    l.Precedes (l.write a undo change) :=
  (precedes_touch l a).trans ⟨[undo ((l.touch a).accounts.get a)], rfl, h _⟩

theorem precedes_setBalance (l : Ledger) (a : Address) (balance : Word) :
    l.Precedes (l.setBalance a balance) :=
  precedes_write fun _ => Accounts.update_update_cancel rfl

theorem precedes_setNonce (l : Ledger) (a : Address) (nonce : UInt64) :
    l.Precedes (l.setNonce a nonce) :=
  precedes_write fun _ => Accounts.update_update_cancel rfl

theorem precedes_setCode (l : Ledger) (a : Address) (code : Bytes) :
    l.Precedes (l.setCode a code) :=
  precedes_write fun _ => Accounts.update_update_cancel rfl

theorem precedes_setState (l : Ledger) (a : Address) (key value : Word) :
    l.Precedes (l.setState a key value) :=
  precedes_write fun m => Accounts.update_update_cancel <| by
    dsimp only
    rw [Storage.restore_insert]

theorem precedes_createAccount (l : Ledger) (a : Address) : l.Precedes (l.createAccount a) := by
  refine ⟨[.created a l.accounts[a]?], rfl, ?_⟩
  show (Undo.created a l.accounts[a]?).apply (l.accounts.insert a _) = l.accounts
  cases h : l.accounts[a]? with
  | none =>
    -- there was no account, so going back erases the new one
    exact Accounts.insert_erase_cancel (Accounts.not_mem_of_getElem? h)
  | some old => exact Accounts.insert_insert_cancel h

/-- What `settle` keeps, every outcome of a change has to keep. -/
theorem settle_induction {motive : Ledger → Prop} {change : Except StoreFault Ledger}
    (hkept : motive l) (hchanged : ∀ l', change = .ok l' → motive l') :
    motive (l.settle change).2 := by
  cases change with
  | ok l' => exact hchanged l' rfl
  | error fault => exact hkept

/-- A credit that is not refused sets the balance to the sum. -/
theorem eq_of_addBalance {amount : Word} (h : l.addBalance a amount = .ok l') :
    ∃ balance, Checked.addWord (l.accounts.get a).balance amount = some balance ∧
      l' = l.setBalance a balance := by
  unfold addBalance at h
  split at h
  · next balance hsum => exact ⟨balance, hsum, (Except.ok.inj h).symm⟩
  · cases h

/-- A debit that is not refused sets the balance to the difference. -/
theorem eq_of_subBalance {amount : Word} (h : l.subBalance a amount = .ok l') :
    ∃ balance, Checked.subWord (l.accounts.get a).balance amount = some balance ∧
      l' = l.setBalance a balance := by
  unfold subBalance at h
  split at h
  · next balance hdifference => exact ⟨balance, hdifference, (Except.ok.inj h).symm⟩
  · cases h

/-- What setting a balance keeps, adding to it keeps. -/
theorem addBalance_induction {motive : Ledger → Prop} {amount : Word} (hkept : motive l)
    (hset : ∀ balance, motive (l.setBalance a balance)) :
    motive (l.settle (l.addBalance a amount)).2 := by
  refine settle_induction hkept fun l' h => ?_
  obtain ⟨balance, -, rfl⟩ := eq_of_addBalance h
  exact hset balance

/-- So does taking from it. -/
theorem subBalance_induction {motive : Ledger → Prop} {amount : Word} (hkept : motive l)
    (hset : ∀ balance, motive (l.setBalance a balance)) :
    motive (l.settle (l.subBalance a amount)).2 := by
  refine settle_induction hkept fun l' h => ?_
  obtain ⟨balance, -, rfl⟩ := eq_of_subBalance h
  exact hset balance

/-- **Operations lead forward**, also those that go back, if not to an older mark. -/
theorem Precedes.perform (h : l.Precedes l') {op : StoreOp}
    (hop : ∀ mark, op = .revert mark → l.snapshot ≤ mark) : l.Precedes (l'.perform op).2 := by
  cases op with
  | createAccount a => exact h.trans (precedes_createAccount l' a)
  | addBalance a amount =>
    exact addBalance_induction h fun balance => h.trans (precedes_setBalance l' a balance)
  | subBalance a amount =>
    exact subBalance_induction h fun balance => h.trans (precedes_setBalance l' a balance)
  | setNonce a nonce => exact h.trans (precedes_setNonce l' a nonce)
  | setCode a code => exact h.trans (precedes_setCode l' a code)
  | setState a key value => exact h.trans (precedes_setState l' a key value)
  | revert mark => exact settle_induction h fun _ hok => h.revert (hop mark rfl) hok
  | exist | getBalance | getNonce | getCode | getCodeHash | getState | snapshot => exact h

/-! ### Refused operations -/

/-- An operation that is refused changes neither the accounts nor the journal. -/
theorem perform_eq_of_error {op : StoreOp} {fault : StoreFault}
    (h : (l.perform op).1 = .error fault) : (l.perform op).2 = l := by
  have hsettle (change : Except StoreFault Ledger) (hc : (l.settle change).1 = .error fault) :
      (l.settle change).2 = l := by
    cases change with
    | ok l' => cases hc
    | error _ => rfl
  cases op with
  | addBalance | subBalance | revert => exact hsettle _ h
  | _ =>
    -- no other operation is refused by the ledger
    cases h

end Ledger

end CallWatch
