import CallWatch.Failure
import CallWatch.Word

/-!
# The call log

The log of the frames that were set up.  Each of them enters an opening event, which carries the
arguments of its call, and, behind the events of the frames nested in it, one closing event.  A
log that is switched off takes no entries.
-/

namespace CallWatch

/-- An entry of the call log. -/
inductive CallEvent where
  | call (caller target : Address) (value : Word) (gas : UInt64) (input : Bytes) (depth : UInt64)
  | callCode (caller target : Address) (value : Word) (gas : UInt64) (input : Bytes)
      (depth : UInt64)
  | delegateCall (caller target : Address) (gas : UInt64) (input : Bytes) (depth : UInt64)
  | create (caller address : Address) (value : Word) (gas : UInt64) (depth : UInt64)
  /-- The end of a frame, with the wording of its failure if it failed. -/
  | close (gasLeft : UInt64) (depth : UInt64) (failure : Option String)
  deriving DecidableEq, Repr

/-- The log and its switch. -/
structure CallLog where
  events : Array CallEvent := #[]
  isActive : Bool := true
  deriving DecidableEq, Repr

/-- Enters an event, unless the log is switched off. -/
def CallLog.enter (log : CallLog) (event : CallEvent) : CallLog :=
  if log.isActive then { log with events := log.events.push event } else log

end CallWatch
