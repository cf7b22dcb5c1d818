import CallWatch.Proofs.Ledger.Store
import CallWatch.Proofs.Ledger.Value

/-!
# The code of one account

`Ledger.codeAt` is the code of an account, which is empty where there is no account.  Storing code
puts that code there (`Ledger.codeAt_setCode`) and makes the account exist (`Ledger.mem_setCode`).
No other operation gives code to an account that has none (`Ledger.staysCodeless_perform`): a new
account starts without code, and everything else leaves code alone.
-/

namespace CallWatch

/-- Whether an operation gives no code to `a` and does not go back. -/
def StoreOp.SparesCode (a : Address) : StoreOp → Prop
  | .setCode b _ => b ≠ a
  | .revert _ => False
  | .exist _ | .createAccount _ | .getBalance _ | .addBalance _ _ | .subBalance _ _ | .getNonce _
  | .setNonce _ _ | .getCode _ | .getCodeHash _ | .getState _ _ | .setState _ _ _
  | .snapshot => True

namespace Ledger

/-- The code of an account. -/
def codeAt (l : Ledger) (a : Address) : Bytes :=
  (l.accounts.get a).code

/-- If the account has no code in the first ledger, it has none in the second. -/
def StaysCodeless (a : Address) (l l' : Ledger) : Prop :=
  l.codeAt a = [] → l'.codeAt a = []

variable {l l' : Ledger} {a b : Address}

theorem StaysCodeless.refl (l : Ledger) : StaysCodeless a l l :=
  id

theorem StaysCodeless.of_eq (h : l'.codeAt a = l.codeAt a) : StaysCodeless a l l' :=
  h.trans

theorem StaysCodeless.trans {l'' : Ledger} (h : StaysCodeless a l l')
    (h' : StaysCodeless a l' l'') : StaysCodeless a l l'' :=
  fun hnone => h' (h hnone)

/-! ### Changes of an account -/

theorem mem_setCode (l : Ledger) (a : Address) (code : Bytes) :
    a ∈ (l.setCode a code).accounts := by
  rw [setCode, accounts_write]
  exact Std.ExtTreeMap.mem_insert_self

theorem codeAt_setCode (l : Ledger) (a b : Address) (code : Bytes) :
    (l.setCode a code).codeAt b = if a = b then code else l.codeAt b := by
  rw [codeAt, setCode, get_write]
  split <;> rfl

/-- A new account has no code, and replaces one that may have had some. -/
theorem codeAt_createAccount (l : Ledger) (a b : Address) :
    (l.createAccount a).codeAt b = if a = b then [] else l.codeAt b := by
  rw [codeAt, createAccount, Accounts.get_insert]
  split <;> rfl

theorem codeAt_write {undo : Account → Undo} {change : Account → Account}
    (h : ∀ account, (change account).code = account.code) :
    (l.write a undo change).codeAt b = l.codeAt b := by
  rw [codeAt, get_write]
  split
  · next hab => rw [h, hab, codeAt]
  · rfl

/-- **No operation but storing code gives code** to an account that has none. -/
theorem staysCodeless_perform (l : Ledger) {op : StoreOp} (hop : op.SparesCode a) :
    StaysCodeless a l (l.perform op).2 := by
  cases op with
  | createAccount b =>
    intro hnone
    show (l.createAccount b).codeAt a = []
    rw [codeAt_createAccount]
    split
    · rfl
    · exact hnone
  | setCode b code =>
    intro hnone
    show (l.setCode b code).codeAt a = []
    rw [codeAt_setCode, if_neg hop]
    exact hnone
  | addBalance => exact addBalance_induction (.refl l) fun _ => .of_eq (codeAt_write fun _ => rfl)
  | subBalance => exact subBalance_induction (.refl l) fun _ => .of_eq (codeAt_write fun _ => rfl)
  | setNonce | setState => exact .of_eq (codeAt_write fun _ => rfl)
  | revert => exact hop.elim
  | exist | getBalance | getNonce | getCode | getCodeHash | getState | snapshot => exact .refl l

end Ledger

/-! ### Behind a layer of faults -/

theorem Store.staysCodeless_perform {φ : Type} [FaultModel φ] (s : Store φ) {a : Address}
    {op : StoreOp} (hop : op.SparesCode a) :
    s.ledger.StaysCodeless a (s.perform op).2.ledger :=
  perform_induction (.refl s.ledger) (s.ledger.staysCodeless_perform hop)

/-- Whether a procedure gives no code to any account. -/
def Procedure.SparesCode {α : Type} (p : Procedure α) : Prop :=
  ∀ {φ : Type} [FaultModel φ] (s : Store φ) (a : Address),
    s.ledger.StaysCodeless a (s.follow p).2.ledger

theorem Procedure.sparesCode_transfer (sender receiver : Address) (amount : Word) :
    (transfer sender receiver amount).SparesCode := by
  intro φ _ s a
  have honly : (transfer sender receiver amount).Only (StoreOp.SparesCode a) :=
    only_transfer trivial trivial
  exact s.follow_induction honly (fun op l hop h => h.trans (l.staysCodeless_perform hop))
    (.refl s.ledger)

end CallWatch
