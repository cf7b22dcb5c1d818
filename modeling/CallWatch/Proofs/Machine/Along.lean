import CallWatch.Machine.History
import CallWatch.Proofs.Machine.Respects

/-!
# What a computation does along its history

`Run.Along R x events` says that the machines before and after `x` are related by `R`, given the
events of `x`, whether it ends with a value or with a stop.  If `R` composes as events are appended
(`Accumulates`), this is closed under the ways to put computations and their histories together.

`Host.Follows` says it of every single step of a run; then it holds of whole primitives, however
deeply they nest (`Host.Follows.dispatch`), of the programs that dispatch them
(`Host.Follows.run`), and of the root of a transaction (`Host.Follows.runRoot`).  This is the
reasoning of `Host.Respects` with a list of events in between, and the proof takes the same way.
-/

namespace CallWatch

/-- A relation between machines, given what happened in between, that composes. -/
class Accumulates {φ ι : Type} (R : List ι → Machine φ → Machine φ → Prop) : Prop where
  refl : ∀ m, R [] m m
  trans : ∀ {es es' m m' m''}, R es m m' → R es' m' m'' → R (es ++ es') m m''

/-- Where nothing happens, such a relation is a preorder. -/
instance {φ ι : Type} {R : List ι → Machine φ → Machine φ → Prop} [Accumulates R] :
    IsPreorder (Machine φ) (R []) where
  refl := Accumulates.refl
  trans _ _ _ := Accumulates.trans

open History Run

namespace Accumulates

variable {φ ι α β : Type} {R : List ι → Machine φ → Machine φ → Prop} [Accumulates R]
variable {x : Run φ α} {es : List ι} {m₀ m : Machine φ}

/-- What follows a computation may do nothing that counts. -/
theorem keeps_after {f : α → Run φ β} (hx : R es m₀ (x m).2) (hf : ∀ a, Keeps (R []) (f a)) :
    R es m₀ ((x >>= f) m).2 := by
  rw [bind_apply]
  rcases hxm : x m with ⟨stop | a, m₁⟩
  all_goals rw [hxm] at hx
  · exact hx
  · have htrans := trans hx (hf a m₁)
    rwa [List.append_nil] at htrans

variable [FaultModel φ]

/-- A guard does nothing that counts, if neither going back nor putting back the depth does. -/
theorem guarded (hx : R es m (x m).2)
    (hrewind : ∀ {m₁}, R es m m₁ → R es m (store (.revert m.store.ledger.snapshot) m₁).2)
    (hdepth : ∀ (m₁ : Machine φ) depth, R [] m₁ { m₁ with depth }) :
    R es m (Run.guarded x m).2 := by
  rw [guarded_apply]
  rcases hxm : x m with ⟨(failure | message | _) | a, m₁⟩
  all_goals rw [hxm] at hx
  case error.panicked =>
    -- a panic goes back to the mark first, and only if that works restores the depth
    exact keeps_after (hrewind hx) fun _ =>
      .bind (.modify fun m₁ => hdepth m₁ m.depth) fun _ => .fail _
  all_goals exact hx

end Accumulates

namespace Run

variable {φ α β : Type} {R : List Event → Machine φ → Machine φ → Prop}

/-- Whatever becomes of the computation, the machines before and after it are related along its
events. -/
def Along (R : List Event → Machine φ → Machine φ → Prop) (x : Run φ α) (events : History φ) :
    Prop :=
  ∀ m, R (events m) m (x m).2

namespace Along

variable {x : Run φ α} {f : α → Run φ β} {events : History φ} {next : α → History φ}

/-- Nothing happens in a computation that keeps the relation anyway. -/
theorem of_keeps (h : Keeps (R []) x) : Along R x nothing :=
  h

theorem attempt (h : Along R x events) : Along R (Run.attempt x) events := by
  intro m
  rw [snd_attempt]
  exact h m

variable [Accumulates R]

theorem pure (a : α) : Along R (Pure.pure a : Run φ α) nothing :=
  of_keeps (.pure a)

theorem stop (s : Stop) : Along R (Run.stop s : Run φ α) nothing :=
  of_keeps (.stop s)

/-- **One computation after the other has the events of both.** -/
theorem bind (hx : Along R x events) (hf : ∀ a, Along R (f a) (next a)) :
    Along R (x >>= f) (andThen x events next) := by
  intro m
  have h := hx m
  rw [bind_apply, andThen]
  rcases hxm : x m with ⟨stop | a, m₁⟩
  all_goals rw [hxm] at h
  · rw [List.append_nil]
    exact h
  · exact Accumulates.trans h (hf a m₁)

/-- A computation in which nothing happens may stand in front. -/
theorem bind_of_keeps (hx : Keeps (R []) x) (hf : ∀ a, Along R (f a) (next a)) :
    Along R (x >>= f) (andThen x nothing next) :=
  bind (of_keeps hx) hf

/-- A computation in which nothing happens may stand behind. -/
theorem keeps_bind (hx : Along R x events) (hf : ∀ a, Keeps (R []) (f a)) :
    Along R (x >>= f) events := by
  intro m
  have h := bind hx (fun a => of_keeps (hf a)) m
  rw [andThen] at h
  rcases hxm : x m with ⟨stop | a, m₁⟩
  all_goals
    rw [hxm] at h
    rw [← List.append_nil (events m)]
    exact h

variable [FaultModel φ]

/-- Going back happens only if the computation fails. -/
theorem undoOnFailure {mark : Nat} (hrevert : Along R (Run.store (.revert mark)) (only .rewind))
    (hx : Along R x events) :
    Along R (Run.undoOnFailure mark x) (History.undoOnFailure x events) := by
  intro m
  have h := hx m
  rw [Run.undoOnFailure, bind_apply, attempt_apply, History.undoOnFailure, rewindIf]
  rcases hxm : x m with ⟨(failure | message | _) | a, m₁⟩
  all_goals rw [hxm] at h
  · have hback := keeps_bind hrevert (fun _ => Keeps.fail (α := α) failure) m₁
    exact Accumulates.trans h hback
  all_goals
    simp only [Bool.false_eq_true, if_false, List.append_nil]
    exact h

end Along

end Run

namespace Host

variable {φ : Type} [FaultModel φ] {host : Host} {R : List Event → Machine φ → Machine φ → Prop}

/-- Every single step of a run follows a relation. -/
structure Follows (host : Host) (R : List Event → Machine φ → Machine φ → Prop) : Prop where
  /-- Replies to requests that start no frame. -/
  reply : ∀ (nested : Primitive → Run φ Outcome) (events : Primitive → History φ) (q : Query),
    (∀ p, q ≠ .dispatch p) → Along R (host.reply nested q) (replyHistory events q)
  setDepth : ∀ (m : Machine φ) (depth : UInt64), R [] m { m with depth }
  enter : ∀ event, Keeps (R []) (Run.enter event)
  flagThrow : Along R host.flagThrow (only .throw)
  setUp : ∀ p, Along R (host.setUp p) (host.setUpHistory p)
  rewind : ∀ mark, Along R (store (.revert mark)) (only .rewind)
  setCode : ∀ a code, Keeps (R []) (store (.setCode a code))

namespace Follows

variable [Accumulates R] {nested : Primitive → Run φ Outcome} {events : Primitive → History φ}

/-! ### Programs and frames -/

theorem guarded (h : host.Follows R) {α : Type} {x : Run φ α} {events : History φ}
    (hx : Along R x events) : Along R (Run.guarded x) (History.guarded x events) := by
  intro m
  have hm := hx m
  rw [guarded_apply, History.guarded, rewindIf]
  rcases hxm : x m with ⟨(failure | message | _) | a, m₁⟩
  all_goals rw [hxm] at hm
  case error.panicked =>
    -- what follows the revert only puts the depth back and fails
    have hback := Along.keeps_bind (h.rewind m.store.ledger.snapshot)
      (fun _ => Keeps.bind (.modify fun m' => h.setDepth m' m.depth) fun _ =>
        .fail (α := α) (.internal (.panic (message.getD unknownPanic)))) m₁
    exact Accumulates.trans hm hback
  all_goals
    simp only [Bool.false_eq_true, if_false, List.append_nil]
    exact hm

/-- **A program does what its requests do, in their order.** -/
theorem run (h : host.Follows R) (hnested : ∀ p, Along R (nested p) (events p)) {α : Type}
    (program : Program α) :
    Along R (host.run nested program) (host.runHistory nested events program) := by
  induction program with
  | done value => exact .pure value
  | panic message => exact .stop _
  | ask query next ih =>
    refine .bind ?_ ih
    by_cases hd : ∃ p, query = .dispatch p
    · -- a nested primitive, whose failure is a reply
      obtain ⟨p, rfl⟩ := hd
      exact .attempt (hnested p)
    · exact h.reply nested events query fun p hp => hd ⟨p, hp⟩
  | guarded body next ihBody ihNext =>
    have hpart := Along.keeps_bind ihBody fun ended => Keeps.ofExcept ended
    exact .bind (.attempt (h.guarded hpart)) ihNext

theorem runFrame (h : host.Follows R) (hnested : ∀ p, Along R (nested p) (events p))
    (frame : Frame) (input : Bytes) :
    Along R (host.runFrame nested frame input) (host.frameHistory nested events frame input) := by
  unfold Host.runFrame frameHistory
  cases host.precompiles[frame.codeAddress]? with
  | some precompile => exact .pure _
  | none =>
    dsimp only
    by_cases hempty : frame.code.isEmpty = true
    · simp only [if_pos hempty]
      exact .pure _
    simp only [if_neg hempty]
    refine .bind_of_keeps .get fun before => ?_
    by_cases hcancelled : before.isCancelled = true
    · simp only [if_pos hcancelled]
      exact .pure _
    simp only [if_neg hcancelled]
    cases Checked.add before.depth 1 with
    | none => exact .pure _
    | some depth =>
      refine .bind_of_keeps (.modify fun m => h.setDepth m depth) fun _ => ?_
      -- behind the program only the depth is put back
      exact .keeps_bind (h.run hnested _) (keeps_leave h.setDepth)

/-! ### Settling -/

theorem rollBack (h : host.Follows R) (mark : Nat) (frame : Frame) (failure : Failure) :
    Along R (Host.rollBack (φ := φ) mark frame failure) (only .rewind) :=
  .keeps_bind (h.rewind mark) fun _ => h.enter _

theorem settleCall (h : host.Follows R) (mark : Nat) (frame : Frame) (ended : FrameEnd) :
    Along R (host.settleCall mark frame ended) (settleCallHistory mark frame ended) := by
  unfold Host.settleCall settleCallHistory
  cases ended.result with
  | ok output => exact .of_keeps (.bind (h.enter _) fun _ => .pure _)
  | error failure =>
    refine .bind (h.rollBack mark frame failure) fun _ => ?_
    by_cases hpropagates : failure.propagates = true
    · simp only [if_pos hpropagates]
      exact .of_keeps (.fail failure)
    · simp only [if_neg hpropagates]
      exact .keeps_bind h.flagThrow fun _ => .pure _

theorem depositCode (h : host.Follows R) (mark : Nat) (a : Address) (ended : FrameEnd) :
    Along R (Host.depositCode mark a ended) (depositHistory a ended) := by
  unfold Host.depositCode depositHistory
  cases ended.result with
  | error failure => exact .pure _
  | ok code =>
    dsimp only
    by_cases hlarge : maxCodeSize < code.length
    · simp only [if_pos hlarge]
      exact .pure _
    simp only [if_neg hlarge]
    cases Checked.sub ended.gasLeft (Checked.saturate (codeBytePrice * code.length)) with
    | none => exact .pure _
    | some left =>
      have hstored := Along.of_keeps (h.setCode a code)
      exact .keeps_bind (.undoOnFailure (h.rewind mark) hstored) fun _ => .pure _

theorem closeCreation (h : host.Follows R) (frame : Frame) (ended : FrameEnd)
    (failure? : Option Failure) (gasLeft : UInt64) :
    Along R (host.closeCreation frame ended failure? gasLeft)
      (closeHistory frame failure? gasLeft) := by
  refine .bind_of_keeps (h.enter _) fun _ => ?_
  by_cases hfailed : failure?.isSome = true
  · simp only [if_pos hfailed]
    exact .keeps_bind h.flagThrow fun _ => .pure _
  · simp only [if_neg hfailed]
    exact .pure _

theorem concludeCreation (h : host.Follows R) (mark : Nat) (frame : Frame) (ended : FrameEnd) :
    Along R (host.concludeCreation mark frame ended) (host.concludeHistory mark frame ended) := by
  refine .bind (h.depositCode mark frame.account ended) fun ⟨failure?, left⟩ => ?_
  dsimp only
  by_cases hundone : host.undoesCreation ended.output failure? = true
  · simp only [if_pos hundone]
    exact .bind (h.rewind mark) fun _ => h.closeCreation frame ended failure? 0
  · simp only [if_neg hundone]
    exact h.closeCreation frame ended failure? left

theorem settleCreation (h : host.Follows R) (mark : Nat) (frame : Frame) (ended : FrameEnd) :
    Along R (host.settleCreation mark frame ended)
      (host.settleCreationHistory mark frame ended) := by
  unfold Host.settleCreation settleCreationHistory
  cases ended.result with
  | ok output => exact h.concludeCreation mark frame ended
  | error failure =>
    dsimp only
    by_cases hpropagates : failure.propagates = true
    · simp only [if_pos hpropagates]
      exact .keeps_bind (h.rollBack mark frame failure) fun _ => .fail failure
    · simp only [if_neg hpropagates]
      exact h.concludeCreation mark frame ended

theorem settle (h : host.Follows R) (p : Primitive) (mark : Nat) (frame : Frame)
    (ended : FrameEnd) :
    Along R (host.settle p mark frame ended) (host.settleHistory p mark frame ended) := by
  cases p with
  | create => exact h.settleCreation mark frame ended
  | call | callCode | delegateCall => exact h.settleCall mark frame ended

/-! ### Primitives and transactions -/

theorem primitive (h : host.Follows R) (hnested : ∀ p, Along R (nested p) (events p))
    (p : Primitive) :
    Along R (host.primitive nested p) (host.primitiveHistory nested events p) := by
  refine .bind (h.setUp p) fun setup => ?_
  cases setup with
  | «over» outcome => exact .pure _
  | ready mark frame =>
    exact .bind (h.runFrame hnested frame frame.calldata) fun ended => h.settle p mark frame ended

theorem dispatchWithin (h : host.Follows R) (bound : Nat) (p : Primitive) :
    Along R (host.dispatchWithin bound p) (host.historyWithin bound p) := by
  -- what is nested in a primitive runs within a smaller bound
  induction bound generalizing p with
  | zero => exact .stop _
  | succ bound ih => exact h.primitive ih p

/-- **What every single step follows, every primitive follows along its history**, whatever is
nested in it and however it ends. -/
theorem dispatch (h : host.Follows R) (p : Primitive) :
    Along R (host.dispatch p) (host.history p) :=
  h.dispatchWithin _ p

/-- The root of a transaction: raising a nonce outside the guard is no event. -/
theorem runRoot (h : host.Follows R) (tx : Transaction)
    (hstore : ∀ op : StoreOp, (∃ a, op = .getNonce a) ∨ (∃ a nonce, op = .setNonce a nonce) →
      Keeps (R []) (store op)) :
    Along R (host.runRoot tx) (host.rootHistory tx) := by
  have hguarded (p : Primitive) := h.guarded (h.dispatch p)
  unfold Host.runRoot rootHistory
  cases tx.kind with
  | create => exact hguarded _
  | call target =>
    refine .bind_of_keeps (hstore _ (.inl ⟨_, rfl⟩)) fun nonce => ?_
    cases Checked.add nonce 1 with
    | none => exact .of_keeps (.fail _)
    | some next => exact .bind_of_keeps (hstore _ (.inr ⟨_, _, rfl⟩)) fun _ => hguarded _

end Follows

end Host

end CallWatch
