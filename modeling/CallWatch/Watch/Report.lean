import CallWatch.Json.Basic
import CallWatch.Transaction
import CallWatch.Watch.StorageDiff

/-!
# Trace reports

What is told of one watched transaction: the trace lines, the net difference of the storage, the
balance of the target before and after, the receipt, whether anything failed, and, in the reports
of the tracer, the call log.
-/

namespace CallWatch

/-- The report of one watched transaction. -/
structure Report where
  /-- The trace lines in the order in which they were written. -/
  trace : List String
  hash : Word
  storageNew : Std.ExtTreeMap Word Word
  storageOld : Std.ExtTreeMap Word Word
  balanceNew : Word
  balanceOld : Word
  receipt : Receipt
  /-- The call log, in the reports of the tracer. -/
  tracer : Option Json
  /-- Whether a failure was flagged. -/
  hasThrow : Bool

end CallWatch
