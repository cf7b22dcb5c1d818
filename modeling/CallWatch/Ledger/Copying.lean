import CallWatch.Checked
import CallWatch.Ledger.Basic

/-!
# A ledger that copies

The plainest store with snapshots: every snapshot keeps a copy of all accounts, and going back
puts the copy in place.  Copies are numbered by their place, first taken first, and are kept for
ever.

It answers the same operations as the journaled ledger and serves as its yardstick: the two differ
in what a mark is, and in nothing else that a client can see.
-/

namespace CallWatch

/-- The accounts and the copies of them that were marked, first taken first. -/
structure CopyingLedger where
  accounts : Accounts := ∅
  copies : List Accounts := []

namespace CopyingLedger

/-- The accounts with the one at `a` changed; an account that is not there is taken as empty. -/
def write (l : CopyingLedger) (a : Address) (change : Account → Account) : CopyingLedger :=
  { l with accounts := l.accounts.insert a (change (l.accounts.get a)) }

/-- Keeps a copy of the accounts. -/
def snapshot (l : CopyingLedger) : CopyingLedger :=
  { l with copies := l.copies ++ [l.accounts] }

/-- Puts a copy back. -/
def revert (l : CopyingLedger) (mark : Nat) : Except StoreFault CopyingLedger :=
  match l.copies[mark]? with
  | some copy => .ok { l with accounts := copy }
  | none => .error (.unknownSnapshot mark)

/-- Answers an operation. -/
def perform (l : CopyingLedger) : (op : StoreOp) → Except StoreFault op.Answer × CopyingLedger
  | .exist a => (.ok (l.accounts.contains a), l)
  | .createAccount a => (.ok (), l.write a fun account => { balance := account.balance })
  | .getBalance a => (.ok (l.accounts.get a).balance, l)
  | .addBalance a amount =>
    match Checked.addWord (l.accounts.get a).balance amount with
    | some balance => (.ok (), l.write a fun account => { account with balance })
    | none => (.error (Ledger.balanceOverflow a), l)
  | .subBalance a amount =>
    match Checked.subWord (l.accounts.get a).balance amount with
    | some balance => (.ok (), l.write a fun account => { account with balance })
    | none => (.error (Ledger.balanceUnderflow a), l)
  | .getNonce a => (.ok (l.accounts.get a).nonce, l)
  | .setNonce a nonce => (.ok (), l.write a fun account => { account with nonce })
  | .getCode a => (.ok (l.accounts.get a).code, l)
  | .getCodeHash a => (.ok (l.accounts[a]?.elim 0 fun account => codeHash account.code), l)
  | .setCode a code => (.ok (), l.write a fun account => { account with code })
  | .getState a key => (.ok ((l.accounts.get a).storage.getD key 0), l)
  | .setState a key value => (.ok (), l.write a fun account =>
      { account with storage := account.storage.insert key value })
  | .snapshot => (.ok l.copies.length, l.snapshot)
  | .revert mark =>
    match l.revert mark with
    | .ok l' => (.ok (), l')
    | .error fault => (.error fault, l)

end CopyingLedger

end CallWatch
