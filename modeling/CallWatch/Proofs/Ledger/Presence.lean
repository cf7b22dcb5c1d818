import CallWatch.Proofs.Ledger.Code
import CallWatch.Proofs.Ledger.Nonce

/-!
# Accounts that are there

`Ledger.SameAccount` says that one account is the same in two ledgers, down to whether it is there
at all.

An account with a nonce or with code is anchored: it is there and not empty, whatever becomes of its
balance (`Ledger.IsAnchored`).  An account is clear if it is not there as an empty one, from which
some accounts may be exempt (`Ledger.IsClear`).  `Ledger.ClearsAt` says of two ledgers that an
account that was clear, anchored or had a nonce still is or has.
-/

namespace CallWatch

namespace Ledger

/-- The account at `a` is the same: it is there or not as before, with the same balance, nonce, code
and slots. -/
def SameAccount (a : Address) (l l' : Ledger) : Prop :=
  l'.accounts[a]? = l.accounts[a]?

variable {l l' : Ledger} {a b : Address}

theorem SameAccount.refl (l : Ledger) : SameAccount a l l :=
  rfl

theorem SameAccount.trans {l'' : Ledger} (h : SameAccount a l l') (h' : SameAccount a l' l'') :
    SameAccount a l l'' :=
  Eq.trans h' h

/-- A write elsewhere leaves it alone. -/
theorem sameAccount_write (undo : Account → Undo) (change : Account → Account) (hb : b ≠ a) :
    SameAccount a l (l.write b undo change) := by
  rw [SameAccount, accounts_write, Std.ExtTreeMap.getElem?_insert]
  simp only [Std.compare_eq_iff_eq, if_neg hb]

theorem sameAccount_createAccount (hb : b ≠ a) : SameAccount a l (l.createAccount b) := by
  rw [SameAccount, createAccount, Std.ExtTreeMap.getElem?_insert]
  simp only [Std.compare_eq_iff_eq, if_neg hb]

/-! ### Accounts that are not empty -/

/-- The account has a nonce or code. -/
def IsAnchored (a : Address) (l : Ledger) : Prop :=
  l.nonceAt a ≠ 0 ∨ l.codeAt a ≠ []

/-- If the account is there, it is not empty, unless it is exempt from that. -/
def IsClear (exempt : Address → Prop) (a : Address) (l : Ledger) : Prop :=
  a ∈ l.accounts → exempt a ∨ ¬(l.accounts.get a).IsEmpty

variable {exempt : Address → Prop}

theorem IsAnchored.not_isEmpty (h : l.IsAnchored a) : ¬(l.accounts.get a).IsEmpty := by
  rintro ⟨-, hnonce, hcode⟩
  exact h.elim (fun hno => hno hnonce) fun hno => hno hcode

theorem IsAnchored.isClear (h : l.IsAnchored a) : l.IsClear exempt a :=
  fun _ => .inr h.not_isEmpty

/-- Where there is no account, there are no nonce and no code. -/
theorem IsAnchored.mem (h : l.IsAnchored a) : a ∈ l.accounts := by
  by_contra hmissing
  have hget : l.accounts.get a = {} := by
    rw [Accounts.get, Std.ExtTreeMap.getElem?_eq_none hmissing, Option.getD_none]
  exact h.not_isEmpty (hget ▸ ⟨rfl, rfl, rfl⟩)

/-- The account keeps having a nonce, being anchored and being clear, as far as it was. -/
structure ClearsAt (exempt : Address → Prop) (a : Address) (l l' : Ledger) : Prop where
  nonce : l.nonceAt a ≠ 0 → l'.nonceAt a ≠ 0
  anchored : l.IsAnchored a → l'.IsAnchored a
  clear : l.IsClear exempt a → l'.IsClear exempt a

namespace ClearsAt

theorem refl (l : Ledger) : ClearsAt exempt a l l :=
  ⟨id, id, id⟩

theorem trans {l'' : Ledger} (h : ClearsAt exempt a l l') (h' : ClearsAt exempt a l' l'') :
    ClearsAt exempt a l l'' :=
  ⟨h'.nonce ∘ h.nonce, h'.anchored ∘ h.anchored, h'.clear ∘ h.clear⟩

theorem of_sameAccount (h : l.SameAccount a l') : ClearsAt exempt a l l' := by
  have hget : l'.accounts.get a = l.accounts.get a := by
    rw [Accounts.get, Accounts.get, show l'.accounts[a]? = l.accounts[a]? from h]
  have hmem : a ∈ l'.accounts ↔ a ∈ l.accounts := by
    rw [Std.ExtTreeMap.mem_iff_isSome_getElem?, Std.ExtTreeMap.mem_iff_isSome_getElem?,
      show l'.accounts[a]? = l.accounts[a]? from h]
  refine ⟨?_, ?_, ?_⟩
  · rw [nonceAt, nonceAt, hget]
    exact id
  · rw [IsAnchored, IsAnchored, nonceAt, nonceAt, codeAt, codeAt, hget]
    exact id
  · rw [IsClear, IsClear, hget, hmem]
    exact id

/-- An account with a nonce has all of it. -/
theorem of_nonce (h : l'.nonceAt a ≠ 0) : ClearsAt exempt a l l' := by
  have hanchored : l'.IsAnchored a := .inl h
  exact ⟨fun _ => h, fun _ => hanchored, fun _ => hanchored.isClear⟩

/-- What keeps the nonce and the code has to keep the account clear. -/
theorem of_kept (hnonce : l'.nonceAt a = l.nonceAt a) (hcode : l'.codeAt a = l.codeAt a)
    (hclear : l.IsClear exempt a → l'.IsClear exempt a) : ClearsAt exempt a l l' := by
  refine ⟨?_, ?_, hclear⟩
  · rw [hnonce]
    exact id
  · rw [IsAnchored, IsAnchored, hnonce, hcode]
    exact id

end ClearsAt

/-! ### What keeps accounts clear -/

theorem clearsAt_setNonce {nonce : UInt64} (hnonce : nonce ≠ 0) (a : Address) :
    ClearsAt exempt a l (l.setNonce b nonce) := by
  by_cases hb : b = a
  · subst hb
    refine .of_nonce ?_
    rw [nonceAt_setNonce, if_pos rfl]
    exact hnonce
  · exact .of_sameAccount (sameAccount_write _ _ hb)

/-- Code may be stored at an account with a nonce, also if it is none. -/
theorem clearsAt_setCode {code : Bytes} (hb : l.nonceAt b ≠ 0) (a : Address) :
    ClearsAt exempt a l (l.setCode b code) := by
  have hsame : (l.setCode b code).nonceAt b = l.nonceAt b := nonceAt_write fun _ => rfl
  by_cases hba : b = a
  · subst hba
    refine .of_nonce ?_
    rw [hsame]
    exact hb
  · exact .of_sameAccount (sameAccount_write _ _ hba)

/-- A slot may be written of an account that is anchored. -/
theorem clearsAt_setState {key value : Word} (hb : l.IsAnchored b) (a : Address) :
    ClearsAt exempt a l (l.setState b key value) := by
  by_cases hba : b = a
  · subst hba
    have hnonce : (l.setState b key value).nonceAt b = l.nonceAt b := nonceAt_write fun _ => rfl
    have hcode : (l.setState b key value).codeAt b = l.codeAt b := codeAt_write fun _ => rfl
    have hanchored : (l.setState b key value).IsAnchored b := by
      rw [IsAnchored, hnonce, hcode]
      exact hb
    exact .of_kept hnonce hcode fun _ => hanchored.isClear
  · exact .of_sameAccount (sameAccount_write _ _ hba)

end Ledger

end CallWatch
