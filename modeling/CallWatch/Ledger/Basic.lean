import CallWatch.Checked
import CallWatch.Ledger.Operation
import CallWatch.Text.Hex

/-!
# The journaled ledger

A `Ledger` holds the accounts and a journal of undo entries, latest first.  Every change of the
accounts pushes the entry that takes it back.  A snapshot is the length of the journal; going back
to it undoes the entries pushed since, latest first, and drops them.

An account that is written to before it exists is created on the way, and that creation has an
entry of its own.
-/

namespace CallWatch

/-- What takes one change of the accounts back. -/
inductive Undo where
  /-- An account was put at `a`, where `previous` had been. -/
  | created (a : Address) (previous : Option Account)
  | balance (a : Address) (previous : Word)
  | nonce (a : Address) (previous : UInt64)
  | code (a : Address) (previous : Bytes)
  /-- A slot was written that held `previous`, or that was not there. -/
  | slot (a : Address) (key : Word) (previous : Option Word)

/-- Puts `value?` at `key`, or removes the key. -/
def Storage.restore (s : Storage) (key : Word) (value? : Option Word) : Storage :=
  match value? with
  | some value => s.insert key value
  | none => s.erase key

/-- Takes one change back.  An entry about an account that is not there changes nothing. -/
def Undo.apply (m : Accounts) : Undo → Accounts
  | .created a (some account) => m.insert a account
  | .created a none => m.erase a
  | .balance a previous => m.update a fun account => { account with balance := previous }
  | .nonce a previous => m.update a fun account => { account with nonce := previous }
  | .code a previous => m.update a fun account => { account with code := previous }
  | .slot a key previous => m.update a fun account =>
      { account with storage := account.storage.restore key previous }

/-- The accounts together with the journal of their changes, latest first. -/
structure Ledger where
  accounts : Accounts := ∅
  journal : List Undo := []

namespace Ledger

/-- The refusal of a credit that would leave the range of a word. -/
def balanceOverflow (a : Address) : StoreFault :=
  .other ("balance overflow for " ++ a.toHex)

/-- The refusal of a debit that is not covered. -/
def balanceUnderflow (a : Address) : StoreFault :=
  .other ("balance underflow for " ++ a.toHex)

/-- Puts an account at `a`, unless there is one. -/
def touch (l : Ledger) (a : Address) : Ledger :=
  if a ∈ l.accounts then l
  else { accounts := l.accounts.insert a {}, journal := .created a none :: l.journal }

/-- Changes the account at `a`, creating it if need be; `undo` takes the change back, given the
account before it. -/
def write (l : Ledger) (a : Address) (undo : Account → Undo) (change : Account → Account) :
    Ledger :=
  -- the entry takes back the change alone, the creation has its own
  let l := l.touch a
  { accounts := l.accounts.update a change, journal := undo (l.accounts.get a) :: l.journal }

/-- Puts a new account at `a` that keeps the balance of the one before it. -/
def createAccount (l : Ledger) (a : Address) : Ledger where
  accounts := l.accounts.insert a { balance := (l.accounts.get a).balance }
  journal := .created a l.accounts[a]? :: l.journal

def setBalance (l : Ledger) (a : Address) (balance : Word) : Ledger :=
  l.write a (fun account => .balance a account.balance) fun account => { account with balance }

def setNonce (l : Ledger) (a : Address) (nonce : UInt64) : Ledger :=
  l.write a (fun account => .nonce a account.nonce) fun account => { account with nonce }

def setCode (l : Ledger) (a : Address) (code : Bytes) : Ledger :=
  l.write a (fun account => .code a account.code) fun account => { account with code }

def setState (l : Ledger) (a : Address) (key value : Word) : Ledger :=
  l.write a (fun account => .slot a key account.storage[key]?) fun account =>
    { account with storage := account.storage.insert key value }

/-- The mark of the present state: the length of the journal. -/
def snapshot (l : Ledger) : Nat :=
  l.journal.length

/-- Undoes the `count` latest changes. -/
def undo (l : Ledger) (count : Nat) : Ledger where
  accounts := (l.journal.take count).foldl Undo.apply l.accounts
  journal := l.journal.drop count

/-- Goes back to a mark, which must not be longer than the journal. -/
def revert (l : Ledger) (mark : Nat) : Except StoreFault Ledger :=
  if l.journal.length < mark then .error (.unknownSnapshot mark)
  else .ok (l.undo (l.journal.length - mark))

/-- Forgets every undo entry. -/
def commit (l : Ledger) : Ledger :=
  { l with journal := [] }

/-- Puts an account in place without an undo entry. -/
def seed (l : Ledger) (a : Address) (account : Account) : Ledger :=
  { l with accounts := l.accounts.insert a account }

/-- Adds to the balance at `a`. -/
def addBalance (l : Ledger) (a : Address) (amount : Word) : Except StoreFault Ledger :=
  match Checked.addWord (l.accounts.get a).balance amount with
  | some balance => .ok (l.setBalance a balance)
  | none => .error (balanceOverflow a)

/-- Takes from the balance at `a`. -/
def subBalance (l : Ledger) (a : Address) (amount : Word) : Except StoreFault Ledger :=
  match Checked.subWord (l.accounts.get a).balance amount with
  | some balance => .ok (l.setBalance a balance)
  | none => .error (balanceUnderflow a)

/-- Replaces the ledger by the outcome of a change, or keeps it if the change is refused. -/
def settle (l : Ledger) : Except StoreFault Ledger → Except StoreFault Unit × Ledger
  | .ok l' => (.ok (), l')
  | .error fault => (.error fault, l)

/-- Answers an operation. -/
def perform (l : Ledger) : (op : StoreOp) → Except StoreFault op.Answer × Ledger
  | .exist a => (.ok (l.accounts.contains a), l)
  | .createAccount a => (.ok (), l.createAccount a)
  | .getBalance a => (.ok (l.accounts.get a).balance, l)
  | .addBalance a amount => l.settle (l.addBalance a amount)
  | .subBalance a amount => l.settle (l.subBalance a amount)
  | .getNonce a => (.ok (l.accounts.get a).nonce, l)
  | .setNonce a nonce => (.ok (), l.setNonce a nonce)
  | .getCode a => (.ok (l.accounts.get a).code, l)
  | .getCodeHash a => (.ok (l.accounts[a]?.elim 0 fun account => codeHash account.code), l)
  | .setCode a code => (.ok (), l.setCode a code)
  | .getState a key => (.ok ((l.accounts.get a).storage.getD key 0), l)
  | .setState a key value => (.ok (), l.setState a key value)
  | .snapshot => (.ok l.snapshot, l)
  | .revert mark => l.settle (l.revert mark)

end Ledger

end CallWatch
