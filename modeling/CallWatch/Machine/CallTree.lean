import CallWatch.Machine.Execution

/-!
# Call trees

Which primitives ran, and inside which.  A `CallTree` is one primitive as it ran: its answer and, if
a frame was set up for it, that frame, how it ended, and the trees of the primitives that its
program dispatched, first one first.  `Host.callTree` is the tree of a primitive on the machine on
which it starts, `Host.runCalls` are the trees of the primitives of a program, and
`Host.executeCalls` is the tree of an executed transaction, if its primitive gets to run.

Trees are put together from the stages of the machine as its runs are; they are not read off the
call log.  What the log is to hold of a tree is said by the tree alone, in `CallTree.events`.
-/

namespace CallWatch

/-- A primitive as it ran. -/
inductive CallTree where
  /-- No frame was set up for it. -/
  | bare (primitive : Primitive) (answer : Except Stop Outcome)
  /-- Its frame ran, and the primitives in `nested` ran inside. -/
  | framed (primitive : Primitive) (frame : Frame) (nested : List CallTree)
      (ended : Except Stop FrameEnd) (answer : Except Stop Outcome)

namespace CallTree

/-! ### Events of the call log -/

/-- The event that closes a frame at this depth, from how the frame ended and what became of its
primitive.  There is none if a panic went through the frame, and none if the frame had an output
and its primitive failed nevertheless: then the output could not be stored as code. -/
def closing? (depth : UInt64) : Except Stop FrameEnd → Except Stop Outcome → Option CallEvent
  | .error _, _ => none
  | .ok _, .ok outcome =>
    some (.close outcome.gasLeft depth (outcome.result.failure?.map (·.message)))
  | .ok ended, .error _ =>
    match ended.result with
    | .ok _ => none
    | .error failure => some (.close 0 depth (some failure.message))

mutual

/-- What the call log is to hold of a primitive: the events of the primitives nested in it, between
the opening and the closing event of its frame.  Without a frame it is nothing. -/
def events : CallTree → List CallEvent
  | bare _ _ => []
  | framed p frame nested ended answer =>
    p.opening frame.account frame.depth ::
      (allEvents nested ++ (closing? frame.depth ended answer).toList)

/-- The events of several trees, one after the other. -/
def allEvents : List CallTree → List CallEvent
  | [] => []
  | call :: calls => call.events ++ allEvents calls

end

mutual

/-- The tree and all trees below it. -/
def calls : CallTree → List CallTree
  | bare p answer => [bare p answer]
  | framed p frame nested ended answer => framed p frame nested ended answer :: allCalls nested

/-- Several trees and all trees below them. -/
def allCalls : List CallTree → List CallTree
  | [] => []
  | call :: rest => call.calls ++ allCalls rest

end

/-- A frame was set up whose entry in the call log stays open. -/
inductive IsLeftOpen : CallTree → Prop
  /-- A panic went through the frame, or the end of the nesting that was allowed. -/
  | unwound {p : Primitive} {frame : Frame} {nested : List CallTree} {stop : Stop}
      {answer : Except Stop Outcome} : IsLeftOpen (framed p frame nested (.error stop) answer)
  /-- The frame had an output that could not be stored as code. -/
  | unstored {p : Primitive} {frame : Frame} {nested : List CallTree} {ended : FrameEnd}
      {code : Bytes} {stop : Stop} (hcode : ended.result = .ok code) :
      IsLeftOpen (framed p frame nested (.ok ended) (.error stop))

/-- A frame was set up for a creation of this account. -/
def Creates (account : Address) : CallTree → Prop
  | framed (.create _ _ _ _) frame _ _ _ => frame.account = account
  | framed _ _ _ _ _ | bare _ _ => False

end CallTree

/-! ### The trees of a run -/

namespace Host

variable {φ : Type} [FaultModel φ]

/-- What is dispatched behind a computation, if that ends with a value. -/
def callsAfter {α : Type} (x : Run φ α) (next : α → Machine φ → List CallTree) (m : Machine φ) :
    List CallTree :=
  match x m with
  | (.ok a, m) => next a m
  | (.error _, _) => []

/-- The primitive that a request dispatches, if it does. -/
def replyCalls (tree : Primitive → Machine φ → CallTree) : Query → Machine φ → List CallTree
  | .dispatch p, m => [tree p m]
  | .storeWord _ _ _, _ | .loadWord _ _, _ | .trace _, _ | .blockHash _, _ | .cancel, _
  | .isCancelled, _ | .depth, _ | .setDepth _, _ | .setTracing _, _ | .store _, _ | .note _, _
  | .remembered, _ | .remember _, _ => []

/-- The primitives that a program dispatches, given the trees of nested primitives. -/
def runCalls (host : Host) (nested : Primitive → Run φ Outcome)
    (tree : Primitive → Machine φ → CallTree) {α : Type} : Program α → Machine φ → List CallTree
  | .done _, _ | .panic _, _ => []
  | .ask query next, m =>
    replyCalls tree query m ++
      callsAfter (host.reply nested query) (fun reply => host.runCalls nested tree (next reply)) m
  | .guarded body next, m =>
    host.runCalls nested tree body m ++
      callsAfter (.attempt (.guarded do .ofExcept (← host.run nested body)))
        (fun answer => host.runCalls nested tree (next answer)) m

/-- The primitives that the program of a frame dispatches, if one is started. -/
def frameCalls (host : Host) (nested : Primitive → Run φ Outcome)
    (tree : Primitive → Machine φ → CallTree) (frame : Frame) (input : Bytes) (m : Machine φ) :
    List CallTree :=
  match host.precompiles[frame.codeAddress]? with
  | some _ => []
  | none =>
    if frame.code.isEmpty then []
    else if m.isCancelled then []
    else match Checked.add m.depth 1 with
      | none => []
      | some depth => host.runCalls nested tree (host.interpreter frame input) { m with depth }

/-- The tree of a primitive, given the trees of nested primitives. -/
def primitiveTree (host : Host) (nested : Primitive → Run φ Outcome)
    (tree : Primitive → Machine φ → CallTree) (p : Primitive) (m : Machine φ) : CallTree :=
  let answer := (host.primitive nested p m).1
  match host.setUp p m with
  | (.ok (.ready _ frame), m) =>
    .framed p frame (host.frameCalls nested tree frame frame.calldata m)
      (host.runFrame nested frame frame.calldata m).1 answer
  | (.ok (.over _), _) | (.error _, _) => .bare p answer

/-- The tree of a primitive in which primitives nest at most `bound` deep. -/
def treeWithin (host : Host) : (bound : Nat) → Primitive → Machine φ → CallTree
  | 0, p, _ => .bare p (.error .exhausted)
  | bound + 1, p, m => host.primitiveTree (host.dispatchWithin bound) (host.treeWithin bound) p m

/-- The tree of a primitive. -/
def callTree (host : Host) (p : Primitive) (m : Machine φ) : CallTree :=
  host.treeWithin nestingBound p m

/-! ### The tree of a transaction -/

/-- The root primitive of a transaction; a call does not start one if it cannot raise the nonce of
its sender. -/
def rootCalls (host : Host) (tx : Transaction) (m : Machine φ) : List CallTree :=
  match tx.kind with
  | .call target =>
    callsAfter (.store (.getNonce tx.sender)) (fun nonce m =>
      match Checked.add nonce 1 with
      | none => []
      | some next =>
        callsAfter (.store (.setNonce tx.sender next)) (fun _ m =>
          [host.callTree (.call tx.sender target tx.data tx.gasLimit tx.value) m]) m) m
  | .create => [host.callTree (.create tx.sender tx.data tx.gasLimit tx.value) m]

/-- The root primitive of an executed transaction, once the watchdogs are armed. -/
def executeCalls (host : Host) (tx : Transaction) (m : Machine φ) : List CallTree :=
  callsAfter (arm tx) (fun _ => host.rootCalls tx) m

end Host

end CallWatch
