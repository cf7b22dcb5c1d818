import CallWatch.Machine.Execution
import CallWatch.Machine.Moments

/-!
# Lives of machines

A machine outlives a single run.  Its clients ask it for one thing after the other (`Errand`): they
drive it by a program of their own, which may dispatch primitives and cancel it, or have it execute
a transaction.  `Host.live` is the machine after a list of errands, whatever became of each of them.

`Host.lifeMoments` are the moments of such a life: those of the errands, and those before, between
and behind them.  In moments of clients no frame is running.
-/

namespace CallWatch

/-- Something that a client asks of a machine. -/
inductive Errand : Type 1 where
  /-- The client drives the machine by a program. -/
  | serve {α : Type} (program : Program α)
  /-- The machine executes a transaction. -/
  | execute (tx : Transaction)

/-- A moment in which no frame is running. -/
def Moment.outside {φ : Type} (machine : Machine φ) : Moment φ where
  running := []
  machine

namespace Host

variable {φ : Type} [FaultModel φ]

/-- The moments of the root primitive of a transaction; a call does not start one if it cannot
raise the nonce of its sender. -/
def rootMoments (host : Host) (tx : Transaction) (m : Machine φ) : List (Moment φ) :=
  match tx.kind with
  | .call target =>
    momentsAfter (.store (.getNonce tx.sender)) (fun nonce m =>
      match Checked.add nonce 1 with
      | none => []
      | some next =>
        momentsAfter (.store (.setNonce tx.sender next)) (fun _ m =>
          host.moments (.call tx.sender target tx.data tx.gasLimit tx.value) m) m) m
  | .create => host.moments (.create tx.sender tx.data tx.gasLimit tx.value) m

/-- The moments of an executed transaction, once the watchdogs are armed. -/
def executeMoments (host : Host) (tx : Transaction) (m : Machine φ) : List (Moment φ) :=
  if host.env.txHash = some tx.hash then momentsAfter (arm tx) (fun _ => host.rootMoments tx) m
  else []

/-- The machine after an errand, whatever became of it. -/
def carryOut (host : Host) : Errand → Machine φ → Machine φ
  | .serve program, m => (host.run host.dispatch program m).2
  | .execute tx, m => (host.execute tx m).2

/-- The moments of an errand. -/
def errandMoments (host : Host) : Errand → Machine φ → List (Moment φ)
  | .serve program, m => host.runMoments host.dispatch host.moments program m
  | .execute tx, m => host.executeMoments tx m

/-- The machine after a list of errands. -/
def live (host : Host) : List Errand → Machine φ → Machine φ
  | [], m => m
  | errand :: rest, m => host.live rest (host.carryOut errand m)

/-- The moments of a list of errands. -/
def lifeMoments (host : Host) : List Errand → Machine φ → List (Moment φ)
  | [], m => [.outside m]
  | errand :: rest, m =>
    .outside m :: (host.errandMoments errand m ++ host.lifeMoments rest (host.carryOut errand m))

end Host

end CallWatch
