import CallWatch.Proofs.Ledger.Store
import CallWatch.Proofs.Ledger.Value

/-!
# The nonce of one account

`Ledger.nonceAt` is the nonce of an account, which is zero where there is no account.  Two kinds of
operations change it: setting the nonce, and putting a new account in place of the old one.  All
others leave it alone (`Ledger.nonceAt_perform`), and so does putting an account in place where
there was none (`Ledger.nonceAt_createAccount_of_missing`).
-/

namespace CallWatch

/-- Whether an operation leaves the nonce of `a` alone, whatever came before it. -/
def StoreOp.SparesNonce (a : Address) : StoreOp → Prop
  | .createAccount b | .setNonce b _ => b ≠ a
  | .revert _ => False
  | .exist _ | .getBalance _ | .addBalance _ _ | .subBalance _ _ | .getNonce _ | .getCode _
  | .getCodeHash _ | .setCode _ _ | .getState _ _ | .setState _ _ _ | .snapshot => True

namespace Ledger

/-- The nonce of an account. -/
def nonceAt (l : Ledger) (a : Address) : UInt64 :=
  (l.accounts.get a).nonce

variable {l l' : Ledger} {a b : Address}

/-! ### Changes of an account -/

theorem nonceAt_setNonce (l : Ledger) (a b : Address) (nonce : UInt64) :
    (l.setNonce a nonce).nonceAt b = if a = b then nonce else l.nonceAt b := by
  rw [nonceAt, setNonce, get_write]
  split <;> rfl

/-- A new account starts with nonce zero, whatever the nonce of the one before it. -/
theorem nonceAt_createAccount (l : Ledger) (a b : Address) :
    (l.createAccount a).nonceAt b = if a = b then 0 else l.nonceAt b := by
  rw [nonceAt, createAccount, Accounts.get_insert]
  split <;> rfl

/-- Where there was no account, the nonce was zero before. -/
theorem nonceAt_createAccount_of_missing (h : a ∉ l.accounts) :
    (l.createAccount a).nonceAt b = l.nonceAt b := by
  rw [nonceAt_createAccount]
  split
  · next hab =>
    rw [nonceAt, ← hab, Accounts.get, Std.ExtTreeMap.getElem?_eq_none h, Option.getD_none]
  · rfl

theorem nonceAt_write {undo : Account → Undo} {change : Account → Account}
    (h : ∀ account, (change account).nonce = account.nonce) :
    (l.write a undo change).nonceAt b = l.nonceAt b := by
  rw [nonceAt, get_write]
  split
  · next hab => rw [h, hab, nonceAt]
  · rfl

/-- **Operations leave the nonce alone** unless they are about it. -/
theorem nonceAt_perform (l : Ledger) {op : StoreOp} (hop : op.SparesNonce a) :
    (l.perform op).2.nonceAt a = l.nonceAt a := by
  cases op with
  | createAccount b => exact (nonceAt_createAccount l b a).trans (if_neg hop)
  | setNonce b nonce => exact (nonceAt_setNonce l b a nonce).trans (if_neg hop)
  | addBalance =>
    exact addBalance_induction (motive := (·.nonceAt a = _)) rfl fun _ => nonceAt_write fun _ => rfl
  | subBalance =>
    exact subBalance_induction (motive := (·.nonceAt a = _)) rfl fun _ => nonceAt_write fun _ => rfl
  | setCode | setState => exact nonceAt_write fun _ => rfl
  | revert => exact hop.elim
  | exist | getBalance | getNonce | getCode | getCodeHash | getState | snapshot => rfl

end Ledger

/-! ### Behind a layer of faults -/

theorem Store.nonceAt_perform {φ : Type} [FaultModel φ] (s : Store φ) {a : Address} {op : StoreOp}
    (hop : op.SparesNonce a) : (s.perform op).2.ledger.nonceAt a = s.ledger.nonceAt a :=
  perform_induction (motive := (·.nonceAt a = _)) rfl (s.ledger.nonceAt_perform hop)

/-- Whether a procedure lowers no nonce. -/
def Procedure.SparesNonces {α : Type} (p : Procedure α) : Prop :=
  ∀ {φ : Type} [FaultModel φ] (s : Store φ) (a : Address),
    s.ledger.nonceAt a ≤ (s.follow p).2.ledger.nonceAt a

theorem Procedure.sparesNonces_transfer (sender receiver : Address) (amount : Word) :
    (transfer sender receiver amount).SparesNonces := by
  intro φ _ s a
  have honly : (transfer sender receiver amount).Only (StoreOp.SparesNonce a) :=
    only_transfer trivial trivial
  have hsame : (s.follow (transfer sender receiver amount)).2.ledger.nonceAt a =
      s.ledger.nonceAt a :=
    s.follow_induction (motive := (·.nonceAt a = _)) honly
      (fun op l hop h => (l.nonceAt_perform hop).trans h) rfl
  exact UInt64.le_of_eq hsame.symm

end CallWatch
