import CallWatch.Ledger.Procedure
import CallWatch.Text.Decimal

/-!
# The environment of a machine

The parameters of the block and of the transaction, and the rules by which value is checked and
moved.  An environment is fixed when a machine is set up.
-/

namespace CallWatch

/-- Where a machine runs. -/
structure Environment : Type 1 where
  /-- Whether an account can afford an amount. -/
  canTransfer : Address → Word → Procedure Bool := .covers
  /-- Moves an amount from one account to another. -/
  transfer : (sender receiver : Address) → Word → Procedure Unit := .transfer
  /-- The hash of the block at a height. -/
  blockHash : UInt64 → Word := fun _ => 0
  /-- The account that sent the transaction. -/
  origin : Address := 0
  gasPrice : Word := 0
  /-- The transaction that is executed; watchdogs are told of no other. -/
  txHash : Option Word := none
  coinbase : Address := 0
  blockGasLimit : UInt64 := 0
  blockNumber : UInt64 := 0
  timestamp : UInt64 := 0
  difficulty : Word := 0

/-- The environment in words. -/
def Environment.describe (env : Environment) : String :=
  let hash := match env.txHash with
    | some hash => "Some(" ++ Word.toHex hash ++ ")"
    | none => "None"
  "Environment \x7b origin: " ++ env.origin.toHex
    ++ ", gas_price: " ++ Decimal.encode env.gasPrice
    ++ ", tx_hash: " ++ hash
    ++ ", coinbase: " ++ env.coinbase.toHex
    ++ ", block_gas_limit: " ++ toString env.blockGasLimit
    ++ ", block_number: " ++ toString env.blockNumber
    ++ ", timestamp: " ++ toString env.timestamp
    ++ ", difficulty: " ++ Decimal.encode env.difficulty
    ++ ", .. \x7d"

end CallWatch
