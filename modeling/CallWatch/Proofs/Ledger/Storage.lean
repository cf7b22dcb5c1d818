import CallWatch.Proofs.Ledger.Store
import CallWatch.Proofs.Ledger.Value

/-!
# The storage of one account

`Ledger.slot` is what a slot of an account reads as.  Operations that are not about the storage of
an account leave all its slots as they read (`Ledger.sameStorage_perform`); writing a slot changes
that slot alone (`Ledger.slot_setState`).  A new account has no storage, so putting one in place
makes no difference where there was none (`Ledger.sameStorage_createAccount_of_missing`).
-/

namespace CallWatch

/-- Whether an operation leaves the storage of `a` alone, whatever came before it. -/
def StoreOp.SparesStorage (a : Address) : StoreOp → Prop
  | .createAccount b | .setState b _ _ => b ≠ a
  | .revert _ => False
  | .exist _ | .getBalance _ | .addBalance _ _ | .subBalance _ _ | .getNonce _ | .setNonce _ _
  | .getCode _ | .getCodeHash _ | .setCode _ _ | .getState _ _ | .snapshot => True

namespace Ledger

/-- What a slot reads as: zero if it was never written. -/
def slot (l : Ledger) (a : Address) (key : Word) : Word :=
  (l.accounts.get a).storage.getD key 0

/-- Every slot of the account reads as before. -/
def SameStorage (a : Address) (l l' : Ledger) : Prop :=
  ∀ key, l'.slot a key = l.slot a key

variable {l l' : Ledger} {a b : Address}

theorem SameStorage.refl (l : Ledger) : SameStorage a l l :=
  fun _ => rfl

theorem SameStorage.trans {l'' : Ledger} (h : SameStorage a l l') (h' : SameStorage a l' l'') :
    SameStorage a l l'' :=
  fun key => (h' key).trans (h key)

/-! ### Changes of an account -/

theorem sameStorage_write {undo : Account → Undo} {change : Account → Account}
    (h : a = b → ∀ account, (change account).storage = account.storage) :
    SameStorage b l (l.write a undo change) := by
  intro key
  rw [slot, slot, get_write]
  by_cases hab : a = b
  · rw [if_pos hab, h hab, hab]
  · rw [if_neg hab]

/-- **Writing a slot changes that slot alone.** -/
theorem slot_setState (l : Ledger) (a : Address) (key value key' : Word) :
    (l.setState a key value).slot a key' = if key = key' then value else l.slot a key' := by
  rw [slot, setState, get_write, if_pos rfl]
  simp only [slot, Std.ExtTreeMap.getD_insert, Std.compare_eq_iff_eq]

theorem sameStorage_createAccount_of_ne (l : Ledger) (hab : a ≠ b) :
    SameStorage b l (l.createAccount a) := by
  intro key
  rw [slot, slot, createAccount, Accounts.get_insert, if_neg hab]

/-- Where there was no account, there was no storage either. -/
theorem sameStorage_createAccount_of_missing (h : a ∉ l.accounts) :
    SameStorage b l (l.createAccount a) := by
  by_cases hab : a = b
  · subst hab
    intro key
    have hempty : l.accounts.get a = {} := by
      rw [Accounts.get, Std.ExtTreeMap.getElem?_eq_none h, Option.getD_none]
    rw [slot, slot, createAccount, Accounts.get_insert, if_pos rfl, hempty]
  · exact sameStorage_createAccount_of_ne l hab

/-- **Operations leave the storage alone** unless they are about it. -/
theorem sameStorage_perform (l : Ledger) {op : StoreOp} (hop : op.SparesStorage a) :
    SameStorage a l (l.perform op).2 := by
  cases op with
  | createAccount b => exact sameStorage_createAccount_of_ne l hop
  | addBalance => exact addBalance_induction (.refl l) fun _ => sameStorage_write fun _ _ => rfl
  | subBalance => exact subBalance_induction (.refl l) fun _ => sameStorage_write fun _ _ => rfl
  | setNonce | setCode => exact sameStorage_write fun _ _ => rfl
  | setState b key value => exact sameStorage_write fun hab => (hop hab).elim
  | revert => exact hop.elim
  | exist | getBalance | getNonce | getCode | getCodeHash | getState | snapshot => exact .refl l

end Ledger

/-! ### Behind a layer of faults -/

theorem Store.sameStorage_perform {φ : Type} [FaultModel φ] (s : Store φ) {a : Address}
    {op : StoreOp} (hop : op.SparesStorage a) :
    s.ledger.SameStorage a (s.perform op).2.ledger :=
  perform_induction (.refl s.ledger) (s.ledger.sameStorage_perform hop)

/-- Whether a procedure leaves all storage as it reads. -/
def Procedure.SparesStorage {α : Type} (p : Procedure α) : Prop :=
  ∀ {φ : Type} [FaultModel φ] (s : Store φ) (a : Address),
    s.ledger.SameStorage a (s.follow p).2.ledger

theorem Procedure.sparesStorage_transfer (sender receiver : Address) (amount : Word) :
    (transfer sender receiver amount).SparesStorage := by
  intro φ _ s a
  have honly : (transfer sender receiver amount).Only (StoreOp.SparesStorage a) :=
    only_transfer trivial trivial
  exact s.follow_induction honly (fun op l hop h => h.trans (l.sameStorage_perform hop))
    (.refl s.ledger)

end CallWatch
