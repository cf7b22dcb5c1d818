import CallWatch.Checked
import CallWatch.Toml.Parser
import CallWatch.Watch.Config

/-!
# Settings files

The settings of the watchdogs stand in the table `watchdog` of a TOML document.  A table or a
field that is missing has its default; what the document says beyond that is of no concern.  The
settings may also be given as an array of their fields in order, which may be short.
-/

namespace CallWatch.WatchConfig

/-- The texts and numbers of a TOML document. -/
def text? : Toml → Option String
  | .string s => some s
  | _ => none

/-- A truth value of a TOML document. -/
def flag? : Toml → Option Bool
  | .boolean b => some b
  | _ => none

/-- A counter of a TOML document. -/
def counter? : Toml → Option UInt64
  | .integer (.ofNat n) => Checked.ofNat n
  | _ => none

/-- A field, or its default if it is missing. -/
def field? {α : Type} (read? : Toml → Option α) (default : α) : Option Toml → Option α
  | none => some default
  | some v => read? v

/-- The settings from their fields. -/
def ofFields? (isEnabled endpoint timeoutSecs jsonlPath : Option Toml) : Option WatchConfig := do
  let default : WatchConfig := {}
  return {
    isEnabled := ← field? flag? default.isEnabled isEnabled
    endpoint := ← field? text? default.endpoint endpoint
    timeoutSecs := ← field? counter? default.timeoutSecs timeoutSecs
    jsonlPath := ← field? (fun v => (text? v).map some) default.jsonlPath jsonlPath }

/-- The settings that a value says.  A date is taken for a table without any of the fields. -/
def ofToml? : Toml → Option WatchConfig
  | .table _ entries =>
    ofFields? (entries.lookup "enabled") (entries.lookup "endpoint")
      (entries.lookup "timeout_secs") (entries.lookup "jsonl_path")
  | .array items => ofFields? items[0]? items[1]? items[2]? items[3]?
  | .tables items =>
    let item (i : Nat) : Option Toml := items[i]?.map (.table .header)
    ofFields? (item 0) (item 1) (item 2) (item 3)
  | .datetime => some {}
  | _ => none

/-- The settings in a document, if they are in order. -/
def ofDocument (document : String) : Except ConfigFault WatchConfig := do
  match Toml.parse? document with
  | some (.table _ entries) =>
    match (entries.lookup "watchdog").elim (some {}) ofToml? with
    | some config =>
      config.check
      return config
    | none => throw .malformed
  | _ => throw .malformed

/-- The settings in a file, given its content if there is such a file. -/
def load (file? : Option Bytes) : Except ConfigFault WatchConfig :=
  match file?.bind Text.ofUtf8? with
  | some document => ofDocument document
  | none => .error .unreadable

end CallWatch.WatchConfig
