import CallWatch.Transaction
import CallWatch.Wire.Form

/-!
# Wire forms of transactions and receipts
-/

namespace CallWatch

/-- A creation by its name, a call with its target. -/
def TxKind.form : Form TxKind where
  write
    | .create => Form.bare "create"
    | .call target => Form.carrying "call" .address target
  read? v := do
    match ← Form.alternative? v with
    | ("create", content) => Form.bare? .create content
    | ("call", some target) => return .call (← Form.address.read? target)
    | _ => none

/-- A transaction as a record. -/
def Transaction.form : Form Transaction where
  write tx := .object [
    ("hash", Form.digest.write tx.hash),
    ("from", Form.address.write tx.sender),
    ("to", TxKind.form.write tx.kind),
    ("nonce", Form.counter.write tx.nonce),
    ("value", Form.quantity.write tx.value),
    ("gas_limit", Form.counter.write tx.gasLimit),
    ("gas_price", Form.quantity.write tx.gasPrice),
    ("data", Form.bytes.write tx.data)]
  read? v := do
    let names := ["hash", "from", "to", "nonce", "value", "gas_limit", "gas_price", "data"]
    let [hash, sender, kind, nonce, value, gasLimit, gasPrice, data] ← Form.fields? names 0 v
      | none
    return {
      hash := ← Form.required? .digest hash
      sender := ← Form.required? .address sender
      kind := ← Form.required? TxKind.form kind
      nonce := ← Form.required? .counter nonce
      value := ← Form.required? .quantity value
      gasLimit := ← Form.required? .counter gasLimit
      gasPrice := ← Form.required? .quantity gasPrice
      data := ← Form.required? .bytes data }

/-- A log record as a record. -/
def LogRecord.form : Form LogRecord where
  write log := .object [
    ("address", Form.address.write log.address),
    ("topics", (Form.list .digest).write log.topics),
    ("data", Form.bytes.write log.data)]
  read? v := do
    let [address, topics, data] ← Form.fields? ["address", "topics", "data"] 0 v | none
    return {
      address := ← Form.required? .address address
      topics := ← Form.required? (.list .digest) topics
      data := ← Form.required? .bytes data }

/-- A receipt as a record; the contract is left out if there is none. -/
def Receipt.form : Form Receipt where
  write receipt := .object (
    [("txHash", Form.digest.write receipt.txHash),
      ("succeeded", Form.flag.write receipt.succeeded),
      ("gasUsed", Form.counter.write receipt.gasUsed),
      ("cumulativeGasUsed", Form.counter.write receipt.cumulativeGasUsed)] ++
    Form.member "contractAddress" .address receipt.contractAddress ++
    [("logs", (Form.list LogRecord.form).write receipt.logs)])
  read? v := do
    let names :=
      ["txHash", "succeeded", "gasUsed", "cumulativeGasUsed", "contractAddress", "logs"]
    let [txHash, succeeded, gasUsed, cumulativeGasUsed, contractAddress, logs] ←
      Form.fields? names 0 v | none
    return {
      txHash := ← Form.required? .digest txHash
      succeeded := ← Form.required? .flag succeeded
      gasUsed := ← Form.required? .counter gasUsed
      cumulativeGasUsed := ← Form.required? .counter cumulativeGasUsed
      contractAddress := ← Form.defaulted? (.optional .address) none contractAddress
      logs := ← Form.required? (.list LogRecord.form) logs }

end CallWatch
