import CallWatch.Machine.Dispatch
import CallWatch.Transaction
import CallWatch.Wire.CallEvent

/-!
# Executing transactions

`Host.execute` runs a transaction as one root primitive.  It arms both watchdogs before and
finalizes both after the run, whether the run had a result or failed; the tracer watchdog gets the
call log.  A machine executes only the transaction that its environment names.

The root primitive is guarded, so a panic in any of its programs is a failure like others.  For a
call, the nonce of the sender is raised outside the guard.
-/

namespace CallWatch

/-- What an executed transaction came to. -/
structure Execution where
  result : Result
  gasUsed : UInt64
  gasLeft : UInt64
  output : Bytes
  /-- The contract that the transaction created, if it did. -/
  contractAddress : Option Address
  receipt : Receipt
  deriving DecidableEq, Repr

namespace Run

variable {φ : Type} [FaultModel φ]

/-- Reads a balance on behalf of a watchdog. -/
def readBalance (a : Address) : Run φ (Except Unreadable Word) := do
  match ← ask (.getBalance a) with
  | .ok balance => return .ok balance
  | .error fault => return .error ⟨fault.message⟩

/-- Performs a watchdog operation; the balance is read only if the operation needs one. -/
def watchdog (kind : WatchKind) (op : WatchOp) : Run φ op.Answer := do
  let balance ← match ((← get).pair.get kind).reading? op with
    | none => pure (.ok 0)
    | some a => readBalance a
  .modifyGet fun m =>
    let (answer, pair) := m.pair.perform (fun _ => balance) kind op
    (answer, { m with pair })

/-- Flags a failure of a transaction with both watchdogs. -/
def markThrown (hash : Word) : Run φ Unit := do
  watchdog .general (.flagThrow hash)
  watchdog .tracer (.flagThrow hash)

/-- Finalizes both watchdogs; the first of their faults. -/
def finalize (receipt : Receipt) : Run φ (Option Unreadable) := do
  let general ← watchdog .general (.finish receipt none)
  let log := (← get).log.toJson
  let tracer ← watchdog .tracer (.finish receipt (some log))
  match general, tracer with
  | .error fault, _ | .ok _, .error fault => return some fault
  | .ok _, .ok _ => return none

end Run

/-- The failure of a transaction whose watchdogs cannot be armed or finalized. -/
def Unreadable.failure (fault : Unreadable) : Failure :=
  .internal (.other ("watchdog: " ++ fault.message))

/-- The receipt of a transaction whose run had an outcome. -/
def Outcome.receipt (outcome : Outcome) (hash : Word) (gasUsed : UInt64) : Receipt where
  txHash := hash
  succeeded := outcome.result.isSuccess
  gasUsed
  cumulativeGasUsed := gasUsed
  contractAddress := if outcome.result.isSuccess then outcome.created else none

namespace Host

variable {φ : Type} [FaultModel φ]

/-- Arms both watchdogs, or none. -/
def arm (tx : Transaction) : Run φ Unit := do
  match ← .watchdog .general (.watch tx) with
  | .error fault => .fail fault.failure
  | .ok _ =>
    match ← .watchdog .tracer (.watch tx) with
    | .ok _ => return
    | .error fault =>
      -- the hash stays claimed, only the session is dropped
      let _ ← .watchdog .general (.disarm tx.hash)
      .fail fault.failure

/-- Runs the root primitive of a transaction.  A call raises the nonce of the sender first; a
creation does so itself. -/
def runRoot (host : Host) (tx : Transaction) : Run φ Outcome := do
  match tx.kind with
  | .call target =>
    let nonce ← .store (.getNonce tx.sender)
    match Checked.add nonce 1 with
    | none => .fail (.internal .overflow)
    | some next =>
      .store (.setNonce tx.sender next)
      .guarded (host.dispatch (.call tx.sender target tx.data tx.gasLimit tx.value))
  | .create => .guarded (host.dispatch (.create tx.sender tx.data tx.gasLimit tx.value))

/-- Says that the machine was set up for another transaction. -/
def unbound (tx : Transaction) : Failure :=
  .internal (.other ("VM environment is not bound to transaction " ++ tx.hash.toHex))

/-- Flags a transaction that did not succeed. -/
def flagResult (hash : Word) (result : Result) : Run φ Unit :=
  if result.isSuccess then pure () else .markThrown hash

/-- Ends a transaction whose run failed. -/
def abandon (tx : Transaction) (failure : Failure) : Run φ Execution := do
  .markThrown tx.hash
  let _ ← .finalize {
    txHash := tx.hash, succeeded := false
    gasUsed := tx.gasLimit, cumulativeGasUsed := tx.gasLimit }
  .fail failure

/-- Ends a transaction whose run had an outcome. -/
def conclude (tx : Transaction) (outcome : Outcome) : Run φ Execution := do
  flagResult tx.hash outcome.result
  match Checked.sub tx.gasLimit outcome.gasLeft with
  | none =>
    -- nothing is finalized on this way out
    .fail (.internal .underflow)
  | some gasUsed =>
    let receipt := outcome.receipt tx.hash gasUsed
    match ← .finalize receipt with
    | some fault => .fail fault.failure
    | none => return {
        result := outcome.result, gasUsed, gasLeft := outcome.gasLeft
        output := outcome.output, contractAddress := receipt.contractAddress, receipt }

/-- Executes a transaction. -/
def execute (host : Host) (tx : Transaction) : Run φ Execution := do
  if host.env.txHash = some tx.hash then
    arm tx
    match ← .attempt (host.runRoot tx) with
    | .error failure => abandon tx failure
    | .ok outcome => conclude tx outcome
  else .fail (unbound tx)

end Host

end CallWatch
