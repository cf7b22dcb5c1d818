import CallWatch.Watch.Config
import CallWatch.Watch.Pair

/-!
# Kennels

A `Kennel` is any number of watchdogs that deliver to one sink.  Some of them share the registry
of the kennel, so that a transaction is watched by at most one of these; each of the others has
its own.  The balances that watchdogs read stand beside them and may be unreadable for a while.
-/

namespace CallWatch

/-- A watchdog in a kennel. -/
structure Member where
  dog : Watchdog
  /-- Whether it uses the common registry in the place of its own. -/
  isSharing : Bool := false

/-- Watchdogs, where their reports go, and the balances that they read. -/
structure Kennel where
  members : List Member
  /-- The registry of those that share one. -/
  common : Registry := ∅
  outbox : Outbox
  balances : Std.ExtTreeMap Address Word := ∅
  /-- Why no balance can be read at present. -/
  outage : Option String := none

namespace Kennel

/-- Both watchdogs of a pair, each with its own registry. -/
def ofPair (pair : WatchPair) : Kennel where
  members := [{ dog := pair.general }, { dog := pair.tracer }]
  outbox := pair.outbox

/-- The pair that settings describe, given the outlet for the collector. -/
def ofConfig (config : WatchConfig) (collector : Outlet) : Kennel :=
  ofPair (if config.isEnabled then .enabled (config.sink collector) else .disabled)

/-- The balance of an account, which is zero unless it was set. -/
def balanceOf (kennel : Kennel) (a : Address) : Except Unreadable Word :=
  match kennel.outage with
  | some reason => .error ⟨reason⟩
  | none => .ok (kennel.balances.getD a 0)

/-- A watchdog with the registry that it uses. -/
def lend (kennel : Kennel) (member : Member) : Watchdog :=
  if member.isSharing then { member.dog with registry := kennel.common } else member.dog

/-- The watchdogs in order. -/
def dogs (kennel : Kennel) : List Watchdog :=
  kennel.members.map kennel.lend

/-- Answers an operation on the watchdog at a place, if there is one, and sends off the report if
there is one. -/
def perform? (kennel : Kennel) (i : Nat) (op : WatchOp) : Option (op.Answer × Kennel) :=
  (kennel.members[i]?).map fun member =>
    let (answer, dog) := (kennel.lend member).perform kennel.balanceOf op
    (answer, { kennel with
      members := kennel.members.set i { member with dog }
      common := if member.isSharing then dog.registry else kennel.common
      outbox := kennel.outbox.send? (op.report? answer) })

end Kennel

end CallWatch
