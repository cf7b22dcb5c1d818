import CallWatch.Failure
import CallWatch.Ledger.Account

/-!
# Store operations

What a machine asks of its store, as data: each operation names the type of its answer
(`StoreOp.Answer`).  Every store of this library answers the same operations, so they can be run
side by side on one sequence of them.

`StoreOp.method` tells which kind of call an operation is.  Taking a snapshot is none of them: it
is the one operation that cannot be refused.
-/

namespace CallWatch

/-- An operation on a store of accounts. -/
inductive StoreOp where
  /-- Whether there is an account at `a`. -/
  | exist (a : Address)
  /-- Puts a new account at `a`, which keeps the balance of the one before it. -/
  | createAccount (a : Address)
  | getBalance (a : Address)
  | addBalance (a : Address) (amount : Word)
  | subBalance (a : Address) (amount : Word)
  | getNonce (a : Address)
  | setNonce (a : Address) (nonce : UInt64)
  | getCode (a : Address)
  /-- The digest of the code at `a`, or zero if there is no account. -/
  | getCodeHash (a : Address)
  | setCode (a : Address) (code : Bytes)
  | getState (a : Address) (key : Word)
  | setState (a : Address) (key value : Word)
  /-- Marks the present state. -/
  | snapshot
  /-- Goes back to a marked state. -/
  | revert (mark : Nat)
  deriving DecidableEq, Repr

/-- The type of the answer to an operation. -/
@[reducible] def StoreOp.Answer : StoreOp → Type
  | .exist _ => Bool
  | .getBalance _ | .getCodeHash _ | .getState _ _ => Word
  | .getNonce _ => UInt64
  | .getCode _ => Bytes
  | .snapshot => Nat
  | .createAccount _ | .addBalance _ _ | .subBalance _ _ | .setNonce _ _ | .setCode _ _
  | .setState _ _ _ | .revert _ => Unit

/-- The kinds of store calls that can be refused. -/
inductive StoreMethod where
  | exist | createAccount | getBalance | addBalance | subBalance | getNonce | setNonce
  | getCode | getCodeHash | setCode | getState | setState | revert
  deriving DecidableEq, Repr

/-- The kind of call that an operation is, unless it cannot be refused. -/
def StoreOp.method : StoreOp → Option StoreMethod
  | .exist _ => some .exist
  | .createAccount _ => some .createAccount
  | .getBalance _ => some .getBalance
  | .addBalance _ _ => some .addBalance
  | .subBalance _ _ => some .subBalance
  | .getNonce _ => some .getNonce
  | .setNonce _ _ => some .setNonce
  | .getCode _ => some .getCode
  | .getCodeHash _ => some .getCodeHash
  | .setCode _ _ => some .setCode
  | .getState _ _ => some .getState
  | .setState _ _ _ => some .setState
  | .snapshot => none
  | .revert _ => some .revert

end CallWatch
