import CallWatch.Machine.Execution

/-!
# Histories

What happens in a run, as a list of events, first event first.  A `History` goes with a
computation: it tells the events of that computation on each machine.  Nothing is taken out of a
history by a rollback, which is an event of its own.

Histories are put together as the computations are (`History.andThen`, `History.guarded`), and each
stage of a primitive has the history that belongs to it, up to `Host.history` for `Host.dispatch`
and `Host.executeHistory` for `Host.execute`.  Where a history depends on what happened before, it
asks the computation itself.
-/

namespace CallWatch

/-- Something that happens in a run. -/
inductive Event where
  /-- A write to a slot that held `current` was tried. -/
  | write (account : Address) (key current value : Word)
  /-- A trace line was written. -/
  | trace (line : String)
  /-- A frame that failed was flagged. -/
  | throw
  /-- A frame, or a guarded part of a program, was taken back to the mark where it began. -/
  | rewind
  /-- A creation went to put a new account in place. -/
  | create (account : Address)
  /-- A program went to the store directly. -/
  | direct (op : StoreOp)
  deriving DecidableEq, Repr

/-- The trace line that was written. -/
def Event.line? : Event → Option String
  | trace line => some line
  | write _ _ _ _ | throw | rewind | create _ | direct _ => none

/-- What a slot held and was to hold, if there was a write to it. -/
def Event.writeAt? (key : Word) : Event → Option (Word × Word)
  | write _ key' current value => if key' = key then some (current, value) else none
  | trace _ | throw | rewind | create _ | direct _ => none

/-- The events of a computation, given the machine on which it starts. -/
abbrev History (φ : Type) : Type :=
  Machine φ → List Event

namespace History

variable {φ α : Type}

/-- Nothing happens. -/
def nothing : History φ :=
  fun _ => []

/-- One event happens. -/
def only (e : Event) : History φ :=
  fun _ => [e]

/-- What happens in `x`, and then in what goes on with its value. -/
def andThen (x : Run φ α) (events : History φ) (next : α → History φ) : History φ := fun m =>
  events m ++ match x m with
    | (.ok a, m) => next a m
    | (.error _, _) => []

/-- What happens in `x`, and then the rewind if it ends in a way that calls for one. -/
def rewindIf (calls : Stop → Bool) (x : Run φ α) (events : History φ) : History φ := fun m =>
  events m ++ match (x m).1 with
    | .ok _ => []
    | .error stop => if calls stop then [.rewind] else []

/-- What happens in `x` and in going back if it fails. -/
def undoOnFailure (x : Run φ α) (events : History φ) : History φ :=
  rewindIf (fun stop => stop matches .failed _) x events

/-- What happens in `x` and in going back if it panics. -/
def guarded (x : Run φ α) (events : History φ) : History φ :=
  rewindIf (fun stop => stop matches .panicked _) x events

end History

open History

/-! ### Programs and frames -/

/-- What happens in a creation before its frame; other primitives do nothing that counts. -/
def Primitive.entering (account : Address) : Primitive → List Event
  | create _ _ _ _ => [.create account]
  | call _ _ _ _ _ | callCode _ _ _ _ _ | delegateCall _ _ _ _ => []

namespace Host

variable {φ : Type} [FaultModel φ]

/-- What happens in the reply to a request. -/
def replyHistory (events : Primitive → History φ) : Query → History φ
  | .dispatch p => events p
  | .storeWord account key value =>
    -- a slot that cannot be read is not written either
    andThen (.loadWord account key) nothing fun current => only (.write account key current value)
  | .trace line => only (.trace line)
  | .store op => only (.direct op)
  | .loadWord _ _ | .blockHash _ | .cancel | .isCancelled | .depth | .setDepth _ | .setTracing _
  | .note _ | .remembered | .remember _ => nothing

/-- What happens in a program. -/
def runHistory (host : Host) (nested : Primitive → Run φ Outcome) (events : Primitive → History φ)
    {α : Type} : Program α → History φ
  | .done _ | .panic _ => nothing
  | .ask query next =>
    andThen (host.reply nested query) (replyHistory events query) fun reply =>
      host.runHistory nested events (next reply)
  | .guarded body next =>
    let part := do Run.ofExcept (← host.run nested body)
    andThen (.attempt (.guarded part)) (guarded part (host.runHistory nested events body))
      fun answer => host.runHistory nested events (next answer)

/-- What happens in a frame: what its program does, if one is started. -/
def frameHistory (host : Host) (nested : Primitive → Run φ Outcome)
    (events : Primitive → History φ) (frame : Frame) (input : Bytes) : History φ :=
  match host.precompiles[frame.codeAddress]? with
  | some _ => nothing
  | none =>
    if frame.code.isEmpty then nothing
    else andThen .get nothing fun before =>
      if before.isCancelled then nothing
      else match Checked.add before.depth 1 with
        | none => nothing
        | some depth =>
          andThen (.modify fun m => { m with depth }) nothing fun _ =>
            host.runHistory nested events (host.interpreter frame input)

/-! ### The stages of a primitive -/

/-- What happens in the setup of a primitive. -/
def setUpHistory (host : Host) (p : Primitive) : History φ :=
  andThen (host.refusal? p.payer p.gas p.value?) nothing fun
    | some _ => nothing
    | none => andThen (takeAccount p) nothing fun account _ => p.entering account

/-- What happens in settling a call. -/
def settleCallHistory (mark : Nat) (frame : Frame) (ended : FrameEnd) : History φ :=
  match ended.result with
  | .ok _ => nothing
  | .error failure =>
    andThen (rollBack mark frame failure) (only .rewind) fun _ =>
      if failure.propagates then nothing else only .throw

/-- What happens in storing the code of a creation. -/
def depositHistory (address : Address) (ended : FrameEnd) : History φ :=
  match ended.result with
  | .error _ => nothing
  | .ok code =>
    if maxCodeSize < code.length then nothing
    else match Checked.sub ended.gasLeft (Checked.saturate (codeBytePrice * code.length)) with
      | none => nothing
      | some _ => undoOnFailure (.store (.setCode address code)) nothing

/-- What happens in closing a creation. -/
def closeHistory (frame : Frame) (failure? : Option Failure) (gasLeft : UInt64) : History φ :=
  andThen (.enter (.close gasLeft frame.depth (failure?.map (·.message)))) nothing fun _ =>
    if failure?.isSome then only .throw else nothing

/-- What happens at the end of a creation whose frame did not stop the machine. -/
def concludeHistory (host : Host) (mark : Nat) (frame : Frame) (ended : FrameEnd) : History φ :=
  andThen (depositCode mark frame.account ended) (depositHistory frame.account ended)
    fun (failure?, left) =>
      if host.undoesCreation ended.output failure? then
        andThen (.store (.revert mark)) (only .rewind) fun _ => closeHistory frame failure? 0
      else closeHistory frame failure? left

/-- What happens in settling a creation. -/
def settleCreationHistory (host : Host) (mark : Nat) (frame : Frame) (ended : FrameEnd) :
    History φ :=
  match ended.result with
  | .error failure =>
    if failure.propagates then only .rewind else host.concludeHistory mark frame ended
  | .ok _ => host.concludeHistory mark frame ended

/-- What happens in settling a primitive. -/
def settleHistory (host : Host) : Primitive → (mark : Nat) → Frame → FrameEnd → History φ
  | .create _ _ _ _ => host.settleCreationHistory
  | .call _ _ _ _ _ | .callCode _ _ _ _ _ | .delegateCall _ _ _ _ => settleCallHistory

/-! ### Primitives and transactions -/

/-- What happens in a primitive, given what happens in those nested in it. -/
def primitiveHistory (host : Host) (nested : Primitive → Run φ Outcome)
    (events : Primitive → History φ) (p : Primitive) : History φ :=
  andThen (host.setUp p) (host.setUpHistory p) fun
    | .over _ => nothing
    | .ready mark frame =>
      andThen (host.runFrame nested frame frame.calldata)
        (host.frameHistory nested events frame frame.calldata) fun ended =>
          host.settleHistory p mark frame ended

/-- What happens in a primitive in which primitives nest at most `bound` deep. -/
def historyWithin (host : Host) : (bound : Nat) → Primitive → History φ
  | 0, _ => nothing
  | bound + 1, p =>
    host.primitiveHistory (host.dispatchWithin bound) (host.historyWithin bound) p

/-- What happens in a primitive. -/
def history (host : Host) (p : Primitive) : History φ :=
  host.historyWithin nestingBound p

/-- What happens in the root primitive of a transaction. -/
def rootHistory (host : Host) (tx : Transaction) : History φ :=
  match tx.kind with
  | .call target =>
    andThen (.store (.getNonce tx.sender)) nothing fun nonce =>
      match Checked.add nonce 1 with
      | none => nothing
      | some next =>
        let p := .call tx.sender target tx.data tx.gasLimit tx.value
        andThen (.store (.setNonce tx.sender next)) nothing fun _ =>
          guarded (host.dispatch p) (host.history p)
  | .create =>
    let p := .create tx.sender tx.data tx.gasLimit tx.value
    guarded (host.dispatch p) (host.history p)

/-- What happens in the run of a transaction, once the watchdogs are armed. -/
def executeHistory (host : Host) (tx : Transaction) : History φ :=
  andThen (arm tx) nothing fun _ => host.rootHistory tx

end Host

end CallWatch
