import CallWatch.Text.Hex
import CallWatch.Watch.Registry
import CallWatch.Watch.Report

/-!
# Watchdogs

A watchdog follows one transaction at a time.  It is armed by `watch`, which reads the balance of
the target, collects storage records, trace lines and the throw flag of that transaction while it
is armed, and is taken back to rest by `finish`, which reads the balance again and makes a report
if at least one trace line was written, or by `disarm`.

Whatever it is told about any other transaction than the armed one is dropped.  A hash is claimed
in the registry when the watchdog is armed for it and stays claimed.

Balances are read from outside and may be unreadable; reading takes place only where `watch` and
`finish` need it, which `watchTarget?` and `finishTarget?` tell beforehand.
-/

namespace CallWatch

/-- Which of the two watchdogs of a machine one is. -/
inductive WatchKind where
  | general
  | tracer
  deriving DecidableEq, Repr

/-- A balance could not be read, with the reason. -/
structure Unreadable where
  reason : String
  deriving DecidableEq, Repr

/-- The wording of a balance that cannot be read. -/
def Unreadable.message (fault : Unreadable) : String :=
  "State read failed: " ++ fault.reason

/-- What a watchdog holds while it is armed. -/
structure Session where
  txHash : Word
  target : Address
  balanceBefore : Word
  trace : Array String := #[]
  storage : StorageDiff := {}
  hasThrow : Bool := false

/-- The report of a session. -/
def Session.report (session : Session) (balanceAfter : Word) (receipt : Receipt)
    (tracer : Option Json) : Report where
  trace := session.trace.toList
  hash := session.txHash
  storageNew := session.storage.after
  storageOld := session.storage.before
  balanceNew := balanceAfter
  balanceOld := session.balanceBefore
  receipt
  tracer
  hasThrow := session.hasThrow

/-- A watchdog: armed if it has a session. -/
structure Watchdog where
  kind : WatchKind
  /-- A watchdog that is not enabled is never armed. -/
  isEnabled : Bool := true
  registry : Registry := ∅
  session : Option Session := none

namespace Watchdog

/-- The hash of the armed transaction. -/
def armed? (dog : Watchdog) : Option Word :=
  dog.session.map (·.txHash)

/-- Whether the watchdog is armed for `hash`. -/
def isWatching (dog : Watchdog) (hash : Word) : Bool :=
  dog.armed? = some hash

/-! ### Arming -/

/-- The account whose balance `watch` reads, unless it refuses before that. -/
def watchTarget? (dog : Watchdog) (tx : Transaction) : Option Address :=
  if dog.isEnabled && !dog.registry.contains tx.hash then tx.target? else none

/-- Arms the watchdog for a transaction.  It refuses if it is not enabled, if the transaction
creates a contract or was claimed before, and while it is armed; the balance is read only if none
but the last of these holds. -/
def watch (dog : Watchdog) (balanceOf : Address → Except Unreadable Word) (tx : Transaction) :
    Except Unreadable Bool × Watchdog :=
  match dog.watchTarget? tx with
  | none => (.ok false, dog)
  | some target =>
    match balanceOf target with
    | .error fault => (.error fault, dog)
    | .ok balanceBefore =>
      -- the balance was read even if there is a session or the hash was claimed
      if dog.session.isSome then (.ok false, dog)
      else
        let (isFree, registry) := Registry.claim dog.registry tx.hash
        if isFree then
          let session := { txHash := tx.hash, target, balanceBefore }
          (.ok true, { dog with registry, session := some session })
        else (.ok false, dog)

/-! ### Taking notes -/

/-- Changes the session, if the watchdog is armed for `hash`. -/
def note (dog : Watchdog) (hash : Word) (change : Session → Session) : Watchdog :=
  { dog with session := dog.session.map fun s => if s.txHash = hash then change s else s }

/-- Records a value seen at a storage location. -/
def recordStorage (dog : Watchdog) (hash location value : Word) : Watchdog :=
  dog.note hash fun s => { s with storage := s.storage.record location value }

/-- Writes a trace line. -/
def writeTrace (dog : Watchdog) (hash : Word) (line : String) : Watchdog :=
  dog.note hash fun s => { s with trace := s.trace.push line }

/-- Flags a failure. -/
def flagThrow (dog : Watchdog) (hash : Word) : Watchdog :=
  dog.note hash fun s => { s with hasThrow := true }

/-! ### Coming to rest -/

/-- The session of `hash`, if the watchdog is armed for it. -/
def sessionFor? (dog : Watchdog) (hash : Word) : Option Session :=
  dog.session.filter (·.txHash = hash)

/-- Drops the session of `hash`; whether there was one. -/
def disarm (dog : Watchdog) (hash : Word) : Bool × Watchdog :=
  if dog.isWatching hash then (true, { dog with session := none }) else (false, dog)

/-- The account whose balance `finish` reads, if it does. -/
def finishTarget? (dog : Watchdog) (receipt : Receipt) : Option Address :=
  (dog.sessionFor? receipt.txHash).map (·.target)

/-- Ends the session that the receipt belongs to.  There is a report only if a trace line was
written; the session ends even if the balance cannot be read. -/
def finish (dog : Watchdog) (balanceOf : Address → Except Unreadable Word) (receipt : Receipt)
    (tracer : Option Json) : Except Unreadable (Option Report) × Watchdog :=
  match dog.sessionFor? receipt.txHash with
  | none => (.ok none, dog)
  | some session =>
    -- the session is over, whatever comes of the balance
    let dog := { dog with session := none }
    match balanceOf session.target with
    | .error fault => (.error fault, dog)
    | .ok balanceAfter =>
      if session.trace.isEmpty then (.ok none, dog)
      else (.ok (some (session.report balanceAfter receipt tracer)), dog)

/-- The watchdog in words. -/
def describe (dog : Watchdog) : String :=
  let kind := match dog.kind with
    | .general => "General"
    | .tracer => "Tracer"
  let armed := match dog.armed? with
    | some hash => "Some(" ++ Word.toHex hash ++ ")"
    | none => "None"
  "WatchDog \x7b kind: " ++ kind ++ ", enabled: " ++ toString dog.isEnabled ++ ", armed_tx: "
    ++ armed ++ " \x7d"

end Watchdog

end CallWatch
