import CallWatch.Digest.Keccak

/-!
# Accounts

An account has a balance, a nonce, code and a storage of words.  A slot that was never written and
a slot that holds zero read alike, but both the slots that are present and the accounts that exist
can be told apart by looking at the maps.
-/

namespace CallWatch

/-- The storage of an account. -/
abbrev Storage := Std.ExtTreeMap Word Word

/-- An account. -/
structure Account where
  balance : Word := 0
  nonce : UInt64 := 0
  code : Bytes := []
  storage : Storage := ∅

/-- The accounts that exist. -/
abbrev Accounts := Std.ExtTreeMap Address Account

/-- The digest of a piece of code. -/
def codeHash (code : Bytes) : Word :=
  keccak code

/-- An account without code, nonce and balance. -/
def Account.IsEmpty (account : Account) : Prop :=
  account.balance = 0 ∧ account.nonce = 0 ∧ account.code = []

instance (account : Account) : Decidable account.IsEmpty :=
  inferInstanceAs (Decidable (_ ∧ _ ∧ _))

namespace Accounts

/-- The account at `a`, or an empty one. -/
def get (m : Accounts) (a : Address) : Account :=
  m[a]?.getD {}

/-- Changes the account at `a`, if it exists. -/
def update (m : Accounts) (a : Address) (f : Account → Account) : Accounts :=
  m.modify a f

end Accounts

end CallWatch
