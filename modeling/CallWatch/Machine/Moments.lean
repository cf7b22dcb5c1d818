import CallWatch.Machine.Dispatch

/-!
# Moments of a run

When programs have control.  A `Moment` is a point in a run at which a program is about to make a
request, to end or to panic.  It tells which frames are running then, innermost first, and what the
machine is like; the program that has control is that of the innermost frame.

`Host.moments` are the moments of a primitive on the machine on which it starts, in their order.
Like call trees they are put together from the stages of the machine.  Frames that run no program,
because they have no code or a built-in contract, have no moments.
-/

namespace CallWatch

/-- A point in a run at which a program has control. -/
structure Moment (φ : Type) where
  /-- The frames whose programs were started and have not ended yet, innermost first. -/
  running : List Frame
  machine : Machine φ

/-- The moment as one inside another frame. -/
def Moment.inside {φ : Type} (frame : Frame) (moment : Moment φ) : Moment φ :=
  { moment with running := moment.running ++ [frame] }

namespace Host

variable {φ : Type} [FaultModel φ]

/-- The moments behind a computation, if that ends with a value. -/
def momentsAfter {α : Type} (x : Run φ α) (next : α → Machine φ → List (Moment φ))
    (m : Machine φ) : List (Moment φ) :=
  match x m with
  | (.ok a, m) => next a m
  | (.error _, _) => []

/-- The moments of the primitive that a request dispatches, if it does. -/
def replyMoments (inner : Primitive → Machine φ → List (Moment φ)) :
    Query → Machine φ → List (Moment φ)
  | .dispatch p, m => inner p m
  | _, _ => []

/-- The moments of a program, given those of nested primitives; its own frame is left out. -/
def runMoments (host : Host) (nested : Primitive → Run φ Outcome)
    (inner : Primitive → Machine φ → List (Moment φ)) {α : Type} :
    Program α → Machine φ → List (Moment φ)
  | .done _, m | .panic _, m => [⟨[], m⟩]
  | .ask query next, m =>
    ⟨[], m⟩ :: (replyMoments inner query m ++
      momentsAfter (host.reply nested query)
        (fun reply => host.runMoments nested inner (next reply)) m)
  | .guarded body next, m =>
    host.runMoments nested inner body m ++
      momentsAfter (.attempt (.guarded do .ofExcept (← host.run nested body)))
        (fun answer => host.runMoments nested inner (next answer)) m

/-- The moments of a frame: those of its program, if one is started. -/
def frameMoments (host : Host) (nested : Primitive → Run φ Outcome)
    (inner : Primitive → Machine φ → List (Moment φ)) (frame : Frame) (input : Bytes)
    (m : Machine φ) : List (Moment φ) :=
  match host.precompiles[frame.codeAddress]? with
  | some _ => []
  | none =>
    if frame.code.isEmpty then []
    else if m.isCancelled then []
    else match Checked.add m.depth 1 with
      | none => []
      | some depth =>
        (host.runMoments nested inner (host.interpreter frame input) { m with depth }).map
          (·.inside frame)

/-- The moments of a primitive, given those of nested primitives. -/
def primitiveMoments (host : Host) (nested : Primitive → Run φ Outcome)
    (inner : Primitive → Machine φ → List (Moment φ)) (p : Primitive) (m : Machine φ) :
    List (Moment φ) :=
  match host.setUp p m with
  | (.ok (.ready _ frame), m) => host.frameMoments nested inner frame frame.calldata m
  | (.ok (.over _), _) | (.error _, _) => []

/-- The moments of a primitive in which primitives nest at most `bound` deep. -/
def momentsWithin (host : Host) : (bound : Nat) → Primitive → Machine φ → List (Moment φ)
  | 0, _, _ => []
  | bound + 1, p, m =>
    host.primitiveMoments (host.dispatchWithin bound) (host.momentsWithin bound) p m

/-- The moments of a primitive. -/
def moments (host : Host) (p : Primitive) (m : Machine φ) : List (Moment φ) :=
  host.momentsWithin nestingBound p m

end Host

end CallWatch
