import CallWatch.Watch.Watchdog

/-!
# Watchdog operations

What clients ask of a watchdog, as data: each operation names the type of its answer
(`WatchOp.Answer`).  `Watchdog.reading?` tells which balance an operation is going to read, so
that a caller can have it ready, and `WatchOp.report?` is the report that an answer holds.
-/

namespace CallWatch

/-- An operation on a watchdog. -/
inductive WatchOp where
  | watch (tx : Transaction)
  | finish (receipt : Receipt) (tracer : Option Json)
  | disarm (hash : Word)
  | recordStorage (hash location value : Word)
  | writeTrace (hash : Word) (line : String)
  | flagThrow (hash : Word)

/-- The type of the answer to an operation. -/
@[reducible] def WatchOp.Answer : WatchOp → Type
  | .watch _ => Except Unreadable Bool
  | .finish _ _ => Except Unreadable (Option Report)
  | .disarm _ => Bool
  | .recordStorage _ _ _ | .writeTrace _ _ | .flagThrow _ => Unit

/-- The report in an answer. -/
def WatchOp.report? : (op : WatchOp) → op.Answer → Option Report
  | .finish _ _, .ok report? => report?
  | _, _ => none

namespace Watchdog

/-- The account whose balance an operation is going to read, if any. -/
def reading? (dog : Watchdog) : WatchOp → Option Address
  | .watch tx => dog.watchTarget? tx
  | .finish receipt _ => dog.finishTarget? receipt
  | _ => none

/-- Answers an operation. -/
def perform (dog : Watchdog) (balanceOf : Address → Except Unreadable Word) :
    (op : WatchOp) → op.Answer × Watchdog
  | .watch tx => dog.watch balanceOf tx
  | .finish receipt tracer => dog.finish balanceOf receipt tracer
  | .disarm hash => dog.disarm hash
  | .recordStorage hash location value => ((), dog.recordStorage hash location value)
  | .writeTrace hash line => ((), dog.writeTrace hash line)
  | .flagThrow hash => ((), dog.flagThrow hash)

end Watchdog

end CallWatch
