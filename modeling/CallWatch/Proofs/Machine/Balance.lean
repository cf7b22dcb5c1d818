import CallWatch.Machine.CallTree

/-!
# Balanced call logs

A list of events is `Balanced` if it consists of blocks, one after the other, each of which opens a
frame, is balanced inside, and closes that frame at the depth at which it was opened.

The events of call trees are balanced exactly if no frame in them is left open
(`CallTree.balanced_allEvents_iff`).  If none is, every tree is a block.  For the converse it is
enough to count: every frame opens once and closes at most once, so one that is left open makes the
openings outnumber the closings.

`Bracketed` says more than `Balanced`: it gives the depth of the blocks, and what is inside a block
is one deeper.
-/

namespace CallWatch

/-- The depth that an event carries. -/
def CallEvent.depth : CallEvent → UInt64
  | call _ _ _ _ _ depth | callCode _ _ _ _ _ depth | delegateCall _ _ _ _ depth
  | create _ _ _ _ depth | close _ depth _ => depth

/-- Whether an event closes a frame; all others open one. -/
def CallEvent.closes : CallEvent → Bool
  | close _ _ _ => true
  | call _ _ _ _ _ _ | callCode _ _ _ _ _ _ | delegateCall _ _ _ _ _ | create _ _ _ _ _ => false

@[simp] theorem CallEvent.closes_close (gasLeft depth : UInt64) (failure : Option String) :
    (close gasLeft depth failure).closes = true :=
  rfl

@[simp] theorem Primitive.depth_opening (p : Primitive) (account : Address) (depth : UInt64) :
    (p.opening account depth).depth = depth := by
  cases p <;> rfl

@[simp] theorem Primitive.closes_opening (p : Primitive) (account : Address) (depth : UInt64) :
    (p.opening account depth).closes = false := by
  cases p <;> rfl

/-- Blocks, one after the other, that open and close at one depth and are balanced inside. -/
inductive Balanced : List CallEvent → Prop
  | nil : Balanced []
  | block {opening : CallEvent} {inside rest : List CallEvent} (gasLeft : UInt64)
      (failure : Option String) (hopens : opening.closes = false) (hinside : Balanced inside)
      (hrest : Balanced rest) :
      Balanced (opening :: (inside ++ .close gasLeft opening.depth failure :: rest))

namespace Balanced

variable {es es' : List CallEvent}

theorem append (h : Balanced es) (h' : Balanced es') : Balanced (es ++ es') := by
  induction h with
  | nil => exact h'
  | block gasLeft failure hopens hinside _ _ ihRest =>
    have hblock := Balanced.block gasLeft failure hopens hinside ihRest
    simpa only [List.cons_append, List.append_assoc] using hblock

/-- **Every frame that is opened is closed once.** -/
theorem count_eq (h : Balanced es) :
    es.countP (fun e => !e.closes) = es.countP CallEvent.closes := by
  induction h with
  | nil => rfl
  | block gasLeft failure hopens _ _ ihInside ihRest =>
    simp only [List.countP_cons, List.countP_append, hopens, CallEvent.closes_close, ihInside,
      ihRest]
    simp only [Bool.not_false, Bool.not_true, Bool.false_eq_true, if_true, if_false]
    omega

end Balanced

namespace CallTree

/-! ### Trees and lists of trees -/

/-- What holds of a tree if it holds of the trees right below it holds of every tree. -/
@[induction_eliminator]
theorem induction {motive : CallTree → Prop}
    (bare : ∀ p answer, motive (bare p answer))
    (framed : ∀ p frame nested ended answer, (∀ call ∈ nested, motive call) →
      motive (framed p frame nested ended answer)) (call : CallTree) : motive call := by
  refine @CallTree.rec motive (fun calls => ∀ call ∈ calls, motive call) bare framed ?_ ?_ call
  · intro call hcall
    cases hcall
  · intro call calls hcall hcalls
    exact List.forall_mem_cons.2 ⟨hcall, hcalls⟩

theorem allEvents_append (calls calls' : List CallTree) :
    allEvents (calls ++ calls') = allEvents calls ++ allEvents calls' := by
  induction calls with
  | nil => rfl
  | cons call calls ih => rw [List.cons_append, allEvents, allEvents, ih, List.append_assoc]

theorem allCalls_append (calls calls' : List CallTree) :
    allCalls (calls ++ calls') = allCalls calls ++ allCalls calls' := by
  induction calls with
  | nil => rfl
  | cons call calls ih => rw [List.cons_append, allCalls, allCalls, ih, List.append_assoc]

@[simp] theorem allEvents_singleton (call : CallTree) : allEvents [call] = call.events :=
  List.append_nil _

@[simp] theorem allCalls_singleton (call : CallTree) : allCalls [call] = call.calls :=
  List.append_nil _

theorem mem_allCalls {calls : List CallTree} {call : CallTree} :
    call ∈ allCalls calls ↔ ∃ c ∈ calls, call ∈ c.calls := by
  induction calls with
  | nil => simp [allCalls]
  | cons c calls ih => simp [allCalls, ih]

variable {p : Primitive} {frame : Frame} {nested : List CallTree} {ended : Except Stop FrameEnd}
variable {answer : Except Stop Outcome}

theorem closing?_of_failure {depth : UInt64} {ended : FrameEnd} {failure : Failure} {stop : Stop}
    (h : ended.result = .error failure) :
    closing? depth (.ok ended) (.error stop) = some (.close 0 depth (some failure.message)) := by
  simp only [closing?, h]

theorem closing?_of_output {depth : UInt64} {ended : FrameEnd} {code : Bytes} {stop : Stop}
    (h : ended.result = .ok code) : closing? depth (.ok ended) (.error stop) = none := by
  simp only [closing?, h]

/-- A closing event closes, at the depth of its frame. -/
theorem eq_close_of_closing? {depth : UInt64} {e : CallEvent}
    (h : closing? depth ended answer = some e) :
    ∃ gasLeft failure, e = .close gasLeft depth failure := by
  unfold closing? at h
  split at h
  · cases h
  · cases h
    exact ⟨_, _, rfl⟩
  · split at h
    · cases h
    · cases h
      exact ⟨_, _, rfl⟩

/-- A frame is left open if there is no event that closes it. -/
theorem isLeftOpen_framed_iff (depth : UInt64) :
    IsLeftOpen (framed p frame nested ended answer) ↔ closing? depth ended answer = none := by
  constructor
  · intro h
    cases h with
    | unwound => rfl
    | unstored hcode => exact closing?_of_output hcode
  · intro h
    cases ended with
    | error stop => exact .unwound
    | ok ended =>
      cases answer with
      | ok outcome => cases h
      | error stop =>
        cases hresult : ended.result with
        | ok code => exact .unstored hresult
        | error failure =>
          rw [closing?_of_failure hresult] at h
          cases h

/-- The events of a frame that is closed. -/
theorem events_of_not_isLeftOpen (h : ¬(framed p frame nested ended answer).IsLeftOpen) :
    ∃ gasLeft failure, (framed p frame nested ended answer).events =
      p.opening frame.account frame.depth ::
        (allEvents nested ++ [.close gasLeft frame.depth failure]) := by
  rw [isLeftOpen_framed_iff frame.depth, ← ne_eq, Option.ne_none_iff_exists'] at h
  obtain ⟨e, he⟩ := h
  obtain ⟨gasLeft, failure, rfl⟩ := eq_close_of_closing? he
  exact ⟨gasLeft, failure, by rw [events, he]; rfl⟩

/-! ### Balance -/

theorem balanced_allEvents {calls : List CallTree} (h : ∀ call ∈ calls, Balanced call.events) :
    Balanced (allEvents calls) := by
  induction calls with
  | nil => exact .nil
  | cons call calls ih =>
    obtain ⟨hcall, hcalls⟩ := List.forall_mem_cons.1 h
    exact hcall.append (ih hcalls)

/-- **A tree in which no frame is left open is balanced.** -/
theorem balanced_events (call : CallTree) (h : ∀ c ∈ call.calls, ¬c.IsLeftOpen) :
    Balanced call.events := by
  induction call with
  | bare p answer => exact .nil
  | framed p frame nested ended answer ih =>
    rw [calls, List.forall_mem_cons] at h
    obtain ⟨hclosed, hnested⟩ := h
    have hinside : Balanced (allEvents nested) := by
      refine balanced_allEvents fun call hcall => ih call hcall fun c hc => ?_
      exact hnested c (mem_allCalls.2 ⟨call, hcall, hc⟩)
    obtain ⟨gasLeft, failure, hevents⟩ := events_of_not_isLeftOpen hclosed
    have hblock := Balanced.block gasLeft failure (p.closes_opening frame.account frame.depth)
      hinside .nil
    rw [p.depth_opening] at hblock
    rwa [hevents]

/-! ### Counting -/

instance : DecidablePred IsLeftOpen
  | bare _ _ => .isFalse fun h => by cases h
  | framed _ frame _ ended answer =>
    decidable_of_iff ((closing? frame.depth ended answer).isNone = true)
      (Option.isNone_iff_eq_none.trans (isLeftOpen_framed_iff frame.depth).symm)

/-- How many frames in these trees are left open. -/
def countLeftOpen (calls : List CallTree) : Nat :=
  (allCalls calls).countP fun call => call.IsLeftOpen

theorem count_allEvents {calls : List CallTree}
    (h : ∀ call ∈ calls, call.events.countP (fun e => !e.closes) =
      call.events.countP CallEvent.closes + call.calls.countP fun c => c.IsLeftOpen) :
    (allEvents calls).countP (fun e => !e.closes) =
      (allEvents calls).countP CallEvent.closes + countLeftOpen calls := by
  induction calls with
  | nil => rfl
  | cons call calls ih =>
    obtain ⟨hcall, hcalls⟩ := List.forall_mem_cons.1 h
    have htail := ih hcalls
    simp only [allEvents, countLeftOpen, allCalls, List.countP_append] at htail ⊢
    omega

/-- **Every frame that is left open is an opening too many.** -/
theorem count_events (call : CallTree) :
    call.events.countP (fun e => !e.closes) =
      call.events.countP CallEvent.closes + call.calls.countP fun c => c.IsLeftOpen := by
  induction call with
  | bare p answer => rfl
  | framed p frame nested ended answer ih =>
    have hinside := count_allEvents ih
    simp only [events, calls, List.countP_cons, List.countP_append, Primitive.closes_opening,
      countLeftOpen, decide_eq_true_eq, isLeftOpen_framed_iff frame.depth] at hinside ⊢
    -- the frame itself is closed by one event or not at all
    cases hclosing : closing? frame.depth ended answer with
    | none =>
      simp only [Option.toList_none, List.countP_nil, Bool.not_false, Bool.false_eq_true, if_true,
        if_false]
      omega
    | some e =>
      obtain ⟨gasLeft, failure, rfl⟩ := eq_close_of_closing? hclosing
      simp only [Option.toList_some, List.countP_singleton, CallEvent.closes_close, Bool.not_true,
        Bool.not_false, Bool.false_eq_true, reduceCtorEq, if_true, if_false]
      omega

/-- **The events of call trees are balanced exactly if no frame is left open.** -/
theorem balanced_allEvents_iff (calls : List CallTree) :
    Balanced (allEvents calls) ↔ ∀ call ∈ allCalls calls, ¬call.IsLeftOpen := by
  constructor
  · intro h
    have hcount := count_allEvents fun call (_ : call ∈ calls) => call.count_events
    have hnone : countLeftOpen calls = 0 := by
      have hequal := h.count_eq
      omega
    simpa only [countLeftOpen, List.countP_eq_zero, decide_eq_true_eq] using hnone
  · intro h
    refine balanced_allEvents fun call hcall => call.balanced_events fun c hc => ?_
    exact h c (mem_allCalls.2 ⟨call, hcall, hc⟩)

end CallTree

/-! ### Depths -/

open CallTree

/-- Blocks, one after the other, that open and close at one depth and have blocks inside that are
one deeper. -/
inductive Bracketed : Nat → List CallEvent → Prop
  | nil {depth : Nat} : Bracketed depth []
  | block {depth : Nat} {opening : CallEvent} {inside rest : List CallEvent} (gasLeft : UInt64)
      (failure : Option String) (hopens : opening.closes = false)
      (hdepth : opening.depth.toNat = depth) (hinside : Bracketed (depth + 1) inside)
      (hrest : Bracketed depth rest) :
      Bracketed depth (opening :: (inside ++ .close gasLeft opening.depth failure :: rest))

namespace Bracketed

variable {depth : Nat} {es es' : List CallEvent}

theorem append (h : Bracketed depth es) (h' : Bracketed depth es') :
    Bracketed depth (es ++ es') := by
  induction h with
  | nil => exact h'
  | block gasLeft failure hopens hdepth hinside _ _ ihRest =>
    have hblock := Bracketed.block gasLeft failure hopens hdepth hinside (ihRest h')
    simpa only [List.cons_append, List.append_assoc] using hblock

theorem balanced (h : Bracketed depth es) : Balanced es := by
  induction h with
  | nil => exact .nil
  | block gasLeft failure hopens _ _ _ ihInside ihRest =>
    exact .block gasLeft failure hopens ihInside ihRest

theorem allEvents {calls : List CallTree} (h : ∀ call ∈ calls, Bracketed depth call.events) :
    Bracketed depth (CallTree.allEvents calls) := by
  induction calls with
  | nil => exact .nil
  | cons call calls ih =>
    obtain ⟨hcall, hcalls⟩ := List.forall_mem_cons.1 h
    exact hcall.append (ih hcalls)

/-- A frame that closes is a block around blocks. -/
theorem framed {p : Primitive} {frame : Frame} {nested : List CallTree}
    {ended : Except Stop FrameEnd} {answer : Except Stop Outcome}
    (hclosed : ¬(CallTree.framed p frame nested ended answer).IsLeftOpen)
    (hnested : ∀ call ∈ nested, Bracketed (frame.depth.toNat + 1) call.events) :
    Bracketed frame.depth.toNat (CallTree.framed p frame nested ended answer).events := by
  obtain ⟨gasLeft, failure, hevents⟩ := events_of_not_isLeftOpen hclosed
  have hopening := p.depth_opening frame.account frame.depth
  have hblock := Bracketed.block gasLeft failure (p.closes_opening frame.account frame.depth)
    (congrArg UInt64.toNat hopening) (allEvents hnested) .nil
  rw [hopening] at hblock
  rwa [hevents]

end Bracketed

end CallWatch
