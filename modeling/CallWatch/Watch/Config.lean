import CallWatch.Text.Quoted
import CallWatch.Url.Basic
import CallWatch.Watch.Sink

/-!
# Watchdog settings

The settings say whether the watchdogs of a machine are armed at all and where their reports go.
`WatchConfig.check` finds the first thing that is wrong with them, whether they are in use or not.
-/

namespace CallWatch

/-- The settings of a pair of watchdogs. -/
structure WatchConfig where
  isEnabled : Bool := true
  /-- The URL of the collector. -/
  endpoint : String := "http://localhost:3000/fuzz"
  /-- How long a delivery may take. -/
  timeoutSecs : UInt64 := 5
  /-- A file to which reports are appended as well. -/
  jsonlPath : Option String := none
  deriving DecidableEq, Repr

/-- What is wrong with settings. -/
inductive ConfigFault where
  /-- The file cannot be read. -/
  | unreadable
  /-- The document is malformed or does not hold settings. -/
  | malformed
  | notUrl (endpoint : String) (fault : Url.Fault)
  | otherScheme (scheme : String)
  | noTimeout
  deriving DecidableEq, Repr

/-- The wording of a fault in the values of settings. -/
def ConfigFault.message : ConfigFault → String
  | .unreadable => "The file cannot be read"
  | .malformed => "The document is malformed"
  | .notUrl endpoint fault =>
    "Invalid configuration: endpoint " ++ Text.quote endpoint ++ " is not a URL: " ++ fault.message
  | .otherScheme scheme =>
    "Invalid configuration: endpoint must use http or https, got " ++ scheme
  | .noTimeout => "Invalid configuration: timeout_secs must be > 0"

/-- Checks that the endpoint is a web address and that deliveries have some time. -/
def WatchConfig.check (config : WatchConfig) : Except ConfigFault Unit := do
  let scheme ← (Url.scheme? config.endpoint).mapError (.notUrl config.endpoint)
  if scheme ≠ "http" ∧ scheme ≠ "https" then throw (.otherScheme scheme)
  if config.timeoutSecs = 0 then throw .noTimeout

/-- The sink that the settings describe, given the outlet for the collector. -/
def WatchConfig.sink (config : WatchConfig) (collector : Outlet) : Sink :=
  if config.jsonlPath.isSome then .dispatcher [.outlet collector, .outlet (.file none)]
  else .outlet collector

end CallWatch
