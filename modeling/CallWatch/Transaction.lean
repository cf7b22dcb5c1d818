import CallWatch.Word

/-!
# Transactions and receipts

A transaction comes with its hash, which nothing here computes.  Its receipt says how it ended.
-/

namespace CallWatch

/-- What a transaction does: it calls an account or creates a contract. -/
inductive TxKind where
  | call (target : Address)
  | create
  deriving DecidableEq, Repr

/-- A transaction. -/
structure Transaction where
  hash : Word
  sender : Address
  kind : TxKind
  nonce : UInt64
  value : Word
  gasLimit : UInt64
  gasPrice : Word
  data : Bytes
  deriving DecidableEq, Repr

/-- The account that a transaction calls, if it calls one. -/
def Transaction.target? (tx : Transaction) : Option Address :=
  match tx.kind with
  | .call target => some target
  | .create => none

/-- A record that a transaction leaves behind. -/
structure LogRecord where
  address : Address
  topics : List Word
  data : Bytes
  deriving DecidableEq, Repr

/-- How a transaction ended. -/
structure Receipt where
  txHash : Word
  succeeded : Bool
  gasUsed : UInt64
  cumulativeGasUsed : UInt64
  /-- The contract that the transaction created, if it did. -/
  contractAddress : Option Address := none
  logs : List LogRecord := []
  deriving DecidableEq, Repr

end CallWatch
