import CallWatch.Proofs.Ledger.Store
import Mathlib.Algebra.BigOperators.Group.List.Basic
import Mathlib.Algebra.GroupWithZero.Nat
import Mathlib.Data.List.Nodup

/-!
# The value in a ledger

`Ledger.total` is the sum of all balances.  Putting an account in place changes it by the
difference of the two balances there (`Accounts.total_insert`), so only credits and debits move
it: `Ledger.SameValue` says that every balance is the same, and every operation but those and
`revert` keeps it (`SameValue.perform`).

A transfer that the sender can afford is a debit and a credit of the same amount.  If the total is
in the range of a word, neither of the two can be refused by the ledger
(`Store.follow_transfer`).
-/

namespace CallWatch

namespace Accounts

/-- The sum of all balances. -/
def total (m : Accounts) : Nat :=
  (m.toList.map fun entry => entry.2.balance.toNat).sum

variable {m : Accounts} {a : Address}

theorem nodup_toList (m : Accounts) : m.toList.Nodup :=
  (Std.ExtTreeMap.distinct_keys_toList (t := m)).imp fun h heq =>
    h (by rw [heq, Std.compare_self])

theorem toList_insert_perm (m : Accounts) (a : Address) (account : Account) :
    (m.insert a account).toList.Perm ((a, account) :: (m.erase a).toList) := by
  -- neither list has a member twice, so they need the same members only
  refine (List.perm_ext_iff_of_nodup (nodup_toList _) ?_).2 ?_
  · refine List.nodup_cons.2 ⟨fun h => ?_, nodup_toList _⟩
    rw [Std.ExtTreeMap.mem_toList_iff_getElem?_eq_some, Std.ExtTreeMap.getElem?_erase_self] at h
    cases h
  · rintro ⟨b, account'⟩
    rw [List.mem_cons, Std.ExtTreeMap.mem_toList_iff_getElem?_eq_some,
      Std.ExtTreeMap.mem_toList_iff_getElem?_eq_some, Std.ExtTreeMap.getElem?_insert,
      Std.ExtTreeMap.getElem?_erase]
    simp only [Std.compare_eq_iff_eq]
    split
    · next hab => simp [hab, eq_comm]
    · next hab => simp [Ne.symm hab]

theorem insert_get_self (h : a ∈ m) : m.insert a (m.get a) = m := by
  apply Std.ExtTreeMap.ext_getElem?
  intro b
  rw [Std.ExtTreeMap.getElem?_insert]
  simp only [Std.compare_eq_iff_eq]
  split
  · next hab => rw [← hab, getElem?_of_mem h]
  · rfl

theorem erase_of_not_mem (h : a ∉ m) : m.erase a = m := by
  apply Std.ExtTreeMap.ext_getElem?
  intro b
  rw [Std.ExtTreeMap.getElem?_erase]
  simp only [Std.compare_eq_iff_eq]
  split
  · next hab => rw [← hab, Std.ExtTreeMap.getElem?_eq_none h]
  · rfl

/-- The total counts every account once. -/
theorem total_eq (m : Accounts) (a : Address) :
    total m = (m.get a).balance.toNat + total (m.erase a) := by
  by_cases h : a ∈ m
  · have hperm := toList_insert_perm m a (m.get a)
    rw [insert_get_self h] at hperm
    rw [total, (hperm.map _).sum_eq, List.map_cons, List.sum_cons]
    rfl
  · -- an account that is not there has nothing
    rw [erase_of_not_mem h, get, Std.ExtTreeMap.getElem?_eq_none h]
    exact (Nat.zero_add _).symm

/-- **An account in place of another one counts instead of it.** -/
theorem total_insert (m : Accounts) (a : Address) (account : Account) :
    total (m.insert a account) + (m.get a).balance.toNat = total m + account.balance.toNat := by
  rw [total, ((toList_insert_perm m a account).map _).sum_eq, List.map_cons, List.sum_cons,
    total_eq m a]
  show account.balance.toNat + total (m.erase a) + _ = _
  omega

theorem balance_le_total (m : Accounts) (a : Address) : (m.get a).balance.toNat ≤ total m := by
  rw [total_eq m a]
  exact Nat.le_add_right _ _

theorem get_insert (m : Accounts) (a b : Address) (account : Account) :
    Accounts.get (m.insert a account) b = if a = b then account else m.get b := by
  rw [get, Std.ExtTreeMap.getElem?_insert]
  simp only [Std.compare_eq_iff_eq]
  split <;> rfl

end Accounts

namespace Ledger

/-- The sum of all balances. -/
def total (l : Ledger) : Nat :=
  l.accounts.total

variable {l l' : Ledger} {a : Address} {amount : Word}

/-! ### Writes -/

theorem get_write (l : Ledger) (a b : Address) (undo : Account → Undo)
    (change : Account → Account) :
    (l.write a undo change).accounts.get b =
      if a = b then change (l.accounts.get a) else l.accounts.get b := by
  rw [accounts_write, Accounts.get_insert]

theorem total_write (l : Ledger) (a : Address) (undo : Account → Undo)
    (change : Account → Account) :
    (l.write a undo change).total + (l.accounts.get a).balance.toNat =
      l.total + (change (l.accounts.get a)).balance.toNat := by
  rw [total, accounts_write]
  exact Accounts.total_insert l.accounts a _

theorem total_of_addBalance (h : l.addBalance a amount = .ok l') :
    l'.total = l.total + amount.toNat := by
  obtain ⟨balance, hadd, rfl⟩ := eq_of_addBalance h
  have hsum := Checked.addWord_eq_some_iff.1 hadd
  have hwrite : (l.setBalance a balance).total + _ = l.total + balance.toNat :=
    total_write l a _ _
  omega

theorem total_of_subBalance (h : l.subBalance a amount = .ok l') :
    l'.total + amount.toNat = l.total := by
  obtain ⟨balance, hsub, rfl⟩ := eq_of_subBalance h
  have hdifference := Checked.subWord_eq_some_iff.1 hsub
  have hwrite : (l.setBalance a balance).total + _ = l.total + balance.toNat :=
    total_write l a _ _
  omega

/-- A debit that is covered goes through. -/
theorem subBalance_of_covered (h : amount ≤ (l.accounts.get a).balance) :
    ∃ l', l.subBalance a amount = .ok l' := by
  unfold subBalance Checked.subWord
  rw [if_pos h]
  exact ⟨_, rfl⟩

/-- A credit goes through if the value in the ledger leaves room for it. -/
theorem addBalance_of_room (h : l.total + amount.toNat < 2 ^ 256) :
    ∃ l', l.addBalance a amount = .ok l' := by
  have hle := Accounts.balance_le_total l.accounts a
  have hroom : (l.accounts.get a).balance.toNat + amount.toNat < Nat.pow 2 256 :=
    Nat.lt_of_le_of_lt (Nat.add_le_add_right hle _) h
  unfold addBalance Checked.addWord
  rw [if_pos hroom]
  exact ⟨_, rfl⟩

/-! ### Operations that move no value -/

/-- Every balance is the same, and so is their sum. -/
structure SameValue (l l' : Ledger) : Prop where
  balance : ∀ a, (l'.accounts.get a).balance = (l.accounts.get a).balance
  total : l'.total = l.total

theorem SameValue.refl (l : Ledger) : l.SameValue l :=
  ⟨fun _ => rfl, rfl⟩

theorem SameValue.trans {l'' : Ledger} (h : l.SameValue l') (h' : l'.SameValue l'') :
    l.SameValue l'' :=
  ⟨fun a => (h'.balance a).trans (h.balance a), h'.total.trans h.total⟩

theorem sameValue_write {undo : Account → Undo} {change : Account → Account}
    (h : ∀ account, (change account).balance = account.balance) :
    l.SameValue (l.write a undo change) := by
  refine ⟨fun b => ?_, ?_⟩
  · rw [get_write]
    split
    · next hab => rw [h, hab]
    · rfl
  · have hwrite := total_write l a undo change
    rw [h] at hwrite
    exact Nat.add_right_cancel hwrite

theorem sameValue_setNonce (l : Ledger) (a : Address) (nonce : UInt64) :
    l.SameValue (l.setNonce a nonce) :=
  sameValue_write fun _ => rfl

theorem sameValue_setCode (l : Ledger) (a : Address) (code : Bytes) :
    l.SameValue (l.setCode a code) :=
  sameValue_write fun _ => rfl

theorem sameValue_setState (l : Ledger) (a : Address) (key value : Word) :
    l.SameValue (l.setState a key value) :=
  sameValue_write fun _ => rfl

/-- An account that is replaced leaves its balance to the new one. -/
theorem sameValue_createAccount (l : Ledger) (a : Address) : l.SameValue (l.createAccount a) := by
  refine ⟨fun b => ?_, ?_⟩
  · show (Accounts.get (l.accounts.insert a _) b).balance = _
    rw [Accounts.get_insert]
    split
    · next hab => rw [← hab]
    · rfl
  · exact Nat.add_right_cancel (Accounts.total_insert l.accounts a _)

end Ledger

/-- **Operations that move nothing are answered, and move nothing.** -/
theorem Ledger.perform_of_movesNothing (l : Ledger) {op : StoreOp} (hop : op.MovesNothing) :
    ∃ answer, (l.perform op).1 = .ok answer ∧ l.SameValue (l.perform op).2 := by
  cases op with
  | createAccount a => exact ⟨_, rfl, sameValue_createAccount l a⟩
  | setNonce a nonce => exact ⟨_, rfl, sameValue_setNonce l a nonce⟩
  | setCode a code => exact ⟨_, rfl, sameValue_setCode l a code⟩
  | setState a key value => exact ⟨_, rfl, sameValue_setState l a key value⟩
  | addBalance | subBalance | revert => exact hop.elim
  | exist | getBalance | getNonce | getCode | getCodeHash | getState | snapshot =>
    exact ⟨_, rfl, .refl l⟩

/-! ### Behind a layer of faults -/

/-- What `view` shows of a fault model changes only when the model hears a fault of the ledger. -/
def FaultModel.OnlyHears {φ γ : Type} [FaultModel φ] (view : φ → γ) : Prop :=
  ∀ faults method, view (FaultModel.next faults method).2 = view faults

/-- A fault model together with the faults of the ledger that it heard, latest first. -/
structure Recorded (φ : Type) where
  faults : φ
  heard : List StoreFault := []

instance (φ : Type) [FaultModel φ] : FaultModel (Recorded φ) where
  next recorded method :=
    let (fault?, faults) := FaultModel.next recorded.faults method
    (fault?, { recorded with faults })
  hear recorded fault :=
    { faults := FaultModel.hear recorded.faults fault, heard := fault :: recorded.heard }

theorem FaultModel.onlyHears_heard (φ : Type) [FaultModel φ] :
    OnlyHears (Recorded.heard : Recorded φ → List StoreFault) :=
  fun _ _ => rfl

theorem FaultModel.SparesReverts.recorded {φ : Type} [FaultModel φ] (hφ : SparesReverts φ) :
    SparesReverts (Recorded φ) :=
  fun recorded => hφ recorded.faults

namespace Store

variable {φ γ : Type} [FaultModel φ] {view : φ → γ}

theorem sameValue_perform (s : Store φ) {op : StoreOp} (hop : op.MovesNothing) :
    s.ledger.SameValue (s.perform op).2.ledger := by
  obtain ⟨_, _, hsame⟩ := s.ledger.perform_of_movesNothing hop
  exact perform_induction (.refl s.ledger) hsame

/-- There is nothing to hear where the ledger has an answer. -/
theorem view_perform (hview : FaultModel.OnlyHears view) {s : Store φ} {op : StoreOp}
    {answer : op.Answer} (h : (s.ledger.perform op).1 = .ok answer) :
    view (s.perform op).2.faults = view s.faults := by
  unfold perform
  cases op.method with
  | none => rfl
  | some method =>
    have hnext := hview s.faults method
    dsimp only
    rcases hn : FaultModel.next s.faults method with ⟨_ | fault, faults⟩
    all_goals rw [hn] at hnext
    · rcases hl : s.ledger.perform op with ⟨_ | _, ledger⟩
      · rw [hl] at h
        cases h
      · exact hnext
    · exact hnext

/-- A check that was answered told the truth. -/
theorem follow_covers {s : Store φ} {a : Address} {amount : Word} {isCovered : Bool}
    (h : (s.follow (.covers a amount)).1 = .ok isCovered) :
    isCovered = decide (amount ≤ (s.ledger.accounts.get a).balance) := by
  change (Store.follow _ (Procedure.bind (.done _) _)).1 = _ at h
  cases hanswer : (s.perform (.getBalance a)).1 with
  | error fault =>
    rw [hanswer] at h
    cases h
  | ok balance =>
    rw [hanswer] at h
    obtain rfl := Except.ok.inj (perform_of_ok hanswer).1
    exact (Except.ok.inj h).symm

/-- **A transfer that the sender can afford keeps the total if it goes through**, and if the total
is in range, the ledger refuses neither half of it. -/
theorem follow_transfer (hview : FaultModel.OnlyHears view) (s : Store φ) (receiver : Address)
    {sender : Address} {amount : Word}
    (hcovered : amount ≤ (s.ledger.accounts.get sender).balance) :
    ((s.follow (.transfer sender receiver amount)).1 = .ok () →
        (s.follow (.transfer sender receiver amount)).2.ledger.total = s.ledger.total) ∧
      (s.ledger.total < 2 ^ 256 →
        view (s.follow (.transfer sender receiver amount)).2.faults = view s.faults) := by
  obtain ⟨l, hdebit⟩ := Ledger.subBalance_of_covered hcovered
  have htotal := Ledger.total_of_subBalance hdebit
  have hsub : s.ledger.perform (.subBalance sender amount) = (.ok (), l) := by
    rw [Ledger.perform, hdebit, Ledger.settle]
  have hheard : view (s.perform (.subBalance sender amount)).2.faults = view s.faults :=
    view_perform hview (by rw [hsub])
  show ((Store.follow _ (Procedure.bind (.done _) _)).1 = _ →
      (Store.follow _ (Procedure.bind (.done _) _)).2.ledger.total = _) ∧
    (_ → view (Store.follow _ (Procedure.bind (.done _) _)).2.faults = _)
  cases hanswer : (s.perform (.subBalance sender amount)).1 with
  | error fault =>
    -- the layer refused the debit, so the credit is not tried
    exact ⟨fun h => (by cases h), fun _ => hheard⟩
  | ok answer =>
    have hl : (s.perform (.subBalance sender amount)).2.ledger = l := by
      rw [(perform_of_ok hanswer).2, hsub]
    generalize (s.perform (.subBalance sender amount)).2 = s₁ at hheard hl
    subst hl
    refine ⟨fun (h : (s₁.perform (.addBalance receiver amount)).1 = .ok ()) => ?_, fun hroom => ?_⟩
    · -- the credit was answered, so it gave back what the debit took
      obtain ⟨hcredit, hafter⟩ := perform_of_ok h
      rw [Ledger.perform] at hcredit hafter
      cases hadd : s₁.ledger.addBalance receiver amount with
      | error fault =>
        rw [hadd] at hcredit
        cases hcredit
      | ok l' =>
        rw [hadd] at hafter
        have hsum := Ledger.total_of_addBalance hadd
        rw [htotal] at hsum
        exact (congrArg Ledger.total hafter).trans hsum
    · -- the debit made the room that the credit needs
      rw [← htotal] at hroom
      obtain ⟨l', hcredit⟩ := Ledger.addBalance_of_room hroom
      exact (view_perform hview (by rw [Ledger.perform, hcredit, Ledger.settle])).trans hheard

end Store

end CallWatch
