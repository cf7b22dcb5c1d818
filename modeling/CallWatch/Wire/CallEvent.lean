import CallWatch.CallLog
import CallWatch.Wire.Form

/-!
# Wire form of the call log

An event is a record with a tag: the member `type` of an object, or the first item of an array.
As the tag may stand anywhere in an object, all of the object is read before it is known, so even
members that are skipped must be readable and must not nest too deeply.
-/

namespace CallWatch

namespace CallEvent

/-- The deepest nesting of a value that is read. -/
def maxDepth : Nat := 127

/-- A tagged record as the tag and the record without it. -/
def untag? : Json → Option (String × Json)
  | .object members => do
    let some (Json.string tag) ← Form.atMostOne? ((members.filter (·.1 = "type")).map (·.2)) | none
    return (tag, .object (members.filter (·.1 ≠ "type")))
  | .array (.string tag :: items) => some (tag, .array items)
  | _ => none

/-- The members of an event that starts a frame with a value. -/
def openingMembers (caller target : Address) (value : Word) (gas : UInt64) (input : Bytes)
    (depth : UInt64) : List (String × Json) :=
  [("from", Form.address.write caller),
    ("to", Form.address.write target),
    ("value", Form.decimal.write value),
    ("gas", Form.counter.write gas),
    ("input", Form.bytes.write input),
    ("depth", Form.counter.write depth)]

/-- The event that starts a frame with a value, made by `make` from its fields. -/
def readOpening? (make : (caller target : Address) → Word → UInt64 → Bytes → UInt64 → CallEvent)
    (v : Json) : Option CallEvent := do
  let [caller, target, value, gas, input, depth] ←
    Form.fields? ["from", "to", "value", "gas", "input", "depth"] 0 v | none
  return make (← Form.required? .address caller) (← Form.required? .address target)
    (← Form.required? .decimal value) (← Form.required? .counter gas)
    (← Form.required? .bytes input) (← Form.required? .counter depth)

/-- The start of a delegate frame. -/
def readDelegateCall? (v : Json) : Option CallEvent := do
  let [caller, target, gas, input, depth] ←
    Form.fields? ["from", "to", "gas", "input", "depth"] 0 v | none
  return .delegateCall (← Form.required? .address caller) (← Form.required? .address target)
    (← Form.required? .counter gas) (← Form.required? .bytes input)
    (← Form.required? .counter depth)

/-- The start of a creation. -/
def readCreate? (v : Json) : Option CallEvent := do
  let [caller, address, value, gas, depth] ←
    Form.fields? ["from", "address", "value", "gas", "depth"] 0 v | none
  return .create (← Form.required? .address caller) (← Form.required? .address address)
    (← Form.required? .decimal value) (← Form.required? .counter gas)
    (← Form.required? .counter depth)

/-- The end of a frame. -/
def readClose? (v : Json) : Option CallEvent := do
  let [gasLeft, depth, failure] ← Form.fields? ["gasLeft", "depth", "error"] 1 v | none
  return .close (← Form.required? .counter gasLeft) (← Form.required? .counter depth)
    (← Form.defaulted? (.optional .text) none failure)

/-- An event as a tagged record. -/
def form : Form CallEvent where
  write
    | .call caller target value gas input depth =>
      .object (("type", .string "call") :: openingMembers caller target value gas input depth)
    | .callCode caller target value gas input depth =>
      .object (("type", .string "callCode") :: openingMembers caller target value gas input depth)
    | .delegateCall caller target gas input depth =>
      .object [
        ("type", .string "delegateCall"),
        ("from", Form.address.write caller),
        ("to", Form.address.write target),
        ("gas", Form.counter.write gas),
        ("input", Form.bytes.write input),
        ("depth", Form.counter.write depth)]
    | .create caller address value gas depth =>
      .object [
        ("type", .string "create"),
        ("from", Form.address.write caller),
        ("address", Form.address.write address),
        ("value", Form.decimal.write value),
        ("gas", Form.counter.write gas),
        ("depth", Form.counter.write depth)]
    | .close gasLeft depth failure =>
      .object (
        [("type", .string "close"),
          ("gasLeft", Form.counter.write gasLeft),
          ("depth", Form.counter.write depth)] ++
        Form.member "error" .text failure)
  read? v :=
    if v.isReadable ∧ v.depth ≤ maxDepth then do
      match ← untag? v with
      | ("call", record) => readOpening? .call record
      | ("callCode", record) => readOpening? .callCode record
      | ("delegateCall", record) => readDelegateCall? record
      | ("create", record) => readCreate? record
      | ("close", record) => readClose? record
      | _ => none
    else none

end CallEvent

/-- The log as a JSON value with sorted members. -/
def CallLog.toJson (log : CallLog) : Json :=
  ((Form.list CallEvent.form).write log.events.toList).canonical

end CallWatch
