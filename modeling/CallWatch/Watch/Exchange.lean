import CallWatch.Watch.Kennel

/-!
# Exchanges with watchdogs

A `Request` is an operation on a watchdog together with the balances that can be read meanwhile,
and an `Exchange` is what was asked with the answer to it.  `Watchdog.serve` answers one request
after another.

A `Visit` is an operation on one of the watchdogs of a kennel, and `Kennel.serve` answers visits
in whatever order they come.
-/

namespace CallWatch

/-! ### What an answer tells -/

/-- Whether the answer to an operation says that a watchdog is now armed for `hash`. -/
def WatchOp.arms (hash : Word) : (op : WatchOp) → op.Answer → Bool
  | .watch tx, .ok true => tx.hash = hash
  | _, _ => false

/-- An operation on a watchdog, the balances as it could read them, and its answer. -/
structure Exchange where
  op : WatchOp
  balanceOf : Address → Except Unreadable Word
  answer : op.Answer

namespace Exchange

/-- Whether a watchdog was armed for `hash`. -/
def arms (hash : Word) (exchange : Exchange) : Bool :=
  exchange.op.arms hash exchange.answer

/-- The report in the answer. -/
def report? (exchange : Exchange) : Option Report :=
  exchange.op.report? exchange.answer

end Exchange

/-! ### One watchdog -/

/-- What a client asks of a watchdog. -/
structure Request where
  op : WatchOp
  /-- The balances as they can be read when it is the turn of this request. -/
  balanceOf : Address → Except Unreadable Word
  /-- The hashes that others with the same registry claimed since the request before. -/
  claimed : List Word := []

namespace Watchdog

/-- The registry after others claimed some hashes in it. -/
def share (dog : Watchdog) (claimed : List Word) : Watchdog :=
  { dog with
    registry := claimed.foldl (fun registry hash => (registry.claim hash).2) dog.registry }

/-- Answers a request. -/
def meet (dog : Watchdog) (request : Request) : Exchange × Watchdog :=
  let (answer, dog) := (dog.share request.claimed).perform request.balanceOf request.op
  ({ op := request.op, balanceOf := request.balanceOf, answer }, dog)

/-- Answers one request after another. -/
def serve (dog : Watchdog) : List Request → List Exchange × Watchdog
  | [] => ([], dog)
  | request :: rest =>
    let (exchange, dog) := dog.meet request
    let (exchanges, dog) := dog.serve rest
    (exchange :: exchanges, dog)

end Watchdog

/-! ### Many watchdogs -/

/-- An operation on the watchdog at a place of a kennel. -/
structure Visit where
  place : Nat
  op : WatchOp
  /-- The balances at the time of the visit. -/
  balances : Std.ExtTreeMap Address Word := ∅
  /-- Why no balance can be read at the time of the visit. -/
  outage : Option String := none

namespace Kennel

/-- The kennel as a visit finds it. -/
def foundBy (kennel : Kennel) (visit : Visit) : Kennel :=
  { kennel with balances := visit.balances, outage := visit.outage }

/-- Answers a visit, if there is a watchdog at its place. -/
def meet (kennel : Kennel) (visit : Visit) : Option Exchange × Kennel :=
  let kennel := kennel.foundBy visit
  match kennel.perform? visit.place visit.op with
  | none => (none, kennel)
  | some (answer, after) =>
    (some { op := visit.op, balanceOf := kennel.balanceOf, answer }, after)

/-- Answers one visit after another. -/
def serve (kennel : Kennel) : List Visit → List Exchange × Kennel
  | [] => ([], kennel)
  | visit :: rest =>
    let (exchange?, kennel) := kennel.meet visit
    let (exchanges, kennel) := kennel.serve rest
    (exchange?.toList ++ exchanges, kennel)

end Kennel

end CallWatch
