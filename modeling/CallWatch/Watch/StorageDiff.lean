import CallWatch.Word

/-!
# Net storage differences

A `StorageDiff` takes records of values seen at locations and keeps, for each location, the first
value and, as long as it differs from the first, the last one.

`StorageDiff.ofRecords` is the difference after a list of records.
-/

namespace CallWatch

/-- The first and the last values recorded for each location. -/
structure StorageDiff where
  /-- The first value of every location that was recorded. -/
  before : Std.ExtTreeMap Word Word := ∅
  /-- The last value of every location where it is not the first one. -/
  after : Std.ExtTreeMap Word Word := ∅

namespace StorageDiff

/-- Takes a record. -/
def record (diff : StorageDiff) (location value : Word) : StorageDiff :=
  match diff.before[location]? with
  | none => { diff with before := diff.before.insert location value }
  | some first =>
    -- back at the first value there is no difference any more
    if first = value then { diff with after := diff.after.erase location }
    else { diff with after := diff.after.insert location value }

/-- Whether nothing was recorded. -/
def isEmpty (diff : StorageDiff) : Bool :=
  diff.before.isEmpty

/-- The difference after a list of records. -/
def ofRecords (records : List (Word × Word)) : StorageDiff :=
  records.foldl (fun diff r => diff.record r.1 r.2) {}

end StorageDiff

end CallWatch
