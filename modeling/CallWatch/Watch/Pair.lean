import CallWatch.Watch.Operation
import CallWatch.Watch.Sink

/-!
# Pairs of watchdogs

A machine is watched by two watchdogs with registries of their own, which deliver to one sink.
-/

namespace CallWatch

/-- A general watchdog, a tracer watchdog, and where their reports go. -/
structure WatchPair where
  general : Watchdog
  tracer : Watchdog
  outbox : Outbox

namespace WatchPair

/-- A pair that delivers to `sink`. -/
def enabled (sink : Sink) : WatchPair where
  general := { kind := .general }
  tracer := { kind := .tracer }
  outbox := { sink }

/-- A pair that is never armed. -/
def disabled : WatchPair where
  general := { kind := .general, isEnabled := false }
  tracer := { kind := .tracer, isEnabled := false }
  outbox := { sink := .dispatcher [] }

/-- One of the two. -/
def get (pair : WatchPair) : WatchKind → Watchdog
  | .general => pair.general
  | .tracer => pair.tracer

/-- The pair with one of the two replaced. -/
def set (pair : WatchPair) (kind : WatchKind) (dog : Watchdog) : WatchPair :=
  match kind with
  | .general => { pair with general := dog }
  | .tracer => { pair with tracer := dog }

/-- Answers an operation on one of the two, and sends off the report if there is one. -/
def perform (pair : WatchPair) (balanceOf : Address → Except Unreadable Word) (kind : WatchKind)
    (op : WatchOp) : op.Answer × WatchPair :=
  let (answer, dog) := (pair.get kind).perform balanceOf op
  let pair := pair.set kind dog
  (answer, { pair with outbox := pair.outbox.send? (op.report? answer) })

/-- Changes the watchdogs of a list, one after the other. -/
def tell (pair : WatchPair) (kinds : List WatchKind) (change : Watchdog → Watchdog) : WatchPair :=
  kinds.foldl (fun pair kind => pair.set kind (change (pair.get kind))) pair

end WatchPair

end CallWatch
