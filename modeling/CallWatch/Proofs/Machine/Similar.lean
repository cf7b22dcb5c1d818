import CallWatch.Proofs.Machine.Keeps

/-!
# Computations that take the same course

`Run.Similar S x x'` says that two computations end alike on any two machines that `S` relates, and
that the machines after them are related again.  Where related machines have the same store and the
same depth, and `S` is kept by changes of both and by entries in the call log (`Sees`), nothing that
primitives do around their frames can tell such machines apart: neither setting up a frame
(`Host.similar_setUp`), nor settling it (`Host.similar_settle`), as long as `S` is kept when
watchdogs are told something.

What differs between related machines is up to the relation, and so is whether frames can tell.
-/

namespace CallWatch

open Run

/-- A relation between machines with the same store and the same depth, that outlasts changes of
both and entries in the call log. -/
class Sees {φ : Type} (S : Machine φ → Machine φ → Prop) : Prop where
  store_eq : ∀ {m m'}, S m m' → m'.store = m.store
  depth_eq : ∀ {m m'}, S m m' → m'.depth = m.depth
  withStore : ∀ {m m'}, S m m' → ∀ store, S { m with store } { m' with store }
  withDepth : ∀ {m m'}, S m m' → ∀ depth, S { m with depth } { m' with depth }
  enter : ∀ {m m'}, S m m' → ∀ event,
    S { m with log := m.log.enter event } { m' with log := m'.log.enter event }

namespace Run

variable {φ α β : Type} {S : Machine φ → Machine φ → Prop}

/-- On related machines the computations end alike, and the machines after them are related. -/
def Similar (S : Machine φ → Machine φ → Prop) (x x' : Run φ α) : Prop :=
  ∀ m m', S m m' → (x' m').1 = (x m).1 ∧ S (x m).2 (x' m').2

namespace Similar

variable {x x' : Run φ α} {f f' : α → Run φ β}

theorem pure (a : α) : Similar S (Pure.pure a) (Pure.pure a) :=
  fun _ _ h => ⟨rfl, h⟩

theorem fail (failure : Failure) : Similar S (Run.fail failure : Run φ α) (Run.fail failure) :=
  fun _ _ h => ⟨rfl, h⟩

theorem bind (hx : Similar S x x') (hf : ∀ a, Similar S (f a) (f' a)) :
    Similar S (x >>= f) (x' >>= f') := by
  intro m m' h
  obtain ⟨hanswer, hafter⟩ := hx m m' h
  rw [bind_apply, bind_apply]
  rcases hxm : x m with ⟨ended, m₁⟩
  rcases hxm' : x' m' with ⟨ended', m₁'⟩
  rw [hxm, hxm'] at hanswer hafter
  obtain rfl : ended' = ended := hanswer
  cases ended' with
  | error stop => exact ⟨rfl, hafter⟩
  | ok a => exact hf a m₁ m₁' hafter

theorem attempt (hx : Similar S x x') : Similar S (Run.attempt x) (Run.attempt x') := by
  intro m m' h
  obtain ⟨hanswer, hafter⟩ := hx m m' h
  rw [attempt_apply, attempt_apply]
  rcases hxm : x m with ⟨ended, m₁⟩
  rcases hxm' : x' m' with ⟨ended', m₁'⟩
  rw [hxm, hxm'] at hanswer hafter
  obtain rfl : ended' = ended := hanswer
  rcases ended' with (_ | _ | _) | _ <;> exact ⟨rfl, hafter⟩

variable [Sees S]

/-- What goes on with the machine may look at its depth. -/
theorem depth_bind {g : Machine φ → Run φ α} (hg : ∀ m m', m'.depth = m.depth → g m' = g m)
    (h : ∀ m, Similar S (g m) (g m)) : Similar S (Run.get >>= g) (Run.get >>= g) := by
  intro m m' hm
  show (g m' m').1 = _ ∧ S _ (g m' m').2
  rw [hg m m' (Sees.depth_eq hm)]
  exact h m m m' hm

theorem enter (event : CallEvent) : Similar S (Run.enter event) (Run.enter event) :=
  fun _ _ h => ⟨rfl, Sees.enter h event⟩

variable [FaultModel φ]

theorem store (op : StoreOp) : Similar S (Run.store op) (Run.store op) := by
  intro m m' h
  rw [store_apply, store_apply, Sees.store_eq h]
  exact ⟨rfl, Sees.withStore h _⟩

theorem perform (p : Procedure α) : Similar S (Run.perform p) (Run.perform p) := by
  intro m m' h
  rw [perform_apply, perform_apply, Sees.store_eq h]
  exact ⟨rfl, Sees.withStore h _⟩

theorem undoOnFailure (mark : Nat) (hx : Similar S x x') :
    Similar S (Run.undoOnFailure mark x) (Run.undoOnFailure mark x') := by
  refine bind hx.attempt fun answer => ?_
  cases answer with
  | ok a => exact pure a
  | error failure => exact bind (store _) fun _ => fail failure

end Similar

end Run

namespace Host

variable {φ : Type} [FaultModel φ] {S : Machine φ → Machine φ → Prop} [Sees S] {host host' : Host}

/-! ### Setting up -/

theorem similar_refusal? (caller : Address) (gas : UInt64) (value? : Option Word) :
    Similar S (host.refusal? caller gas value?) (host.refusal? caller gas value?) := by
  refine .depth_bind (fun _ _ h => by rw [h]) fun before => ?_
  dsimp only
  split
  · exact .pure _
  split
  · exact .pure _
  cases value? with
  | none => exact .pure _
  | some value =>
    refine .bind (.perform _) fun isCovered => ?_
    cases isCovered <;> exact .pure _

theorem similar_takeAccount (p : Primitive) : Similar S (takeAccount p) (takeAccount p) := by
  cases p with
  | call | callCode | delegateCall => exact .pure _
  | create caller code gas value =>
    refine .bind (.store _) fun nonce => ?_
    cases Checked.add nonce 1 with
    | none => exact .fail _
    | some next => exact .bind (.store _) fun _ => .pure _

theorem similar_ensureTarget (target : Address) (value : Word) :
    Similar S (host.ensureTarget target value) (host.ensureTarget target value) := by
  refine .bind (.store _) fun isThere => ?_
  split
  · exact .pure _
  split
  · exact .pure _
  · exact .bind (.store _) fun _ => .pure _

theorem similar_enterFrame (account : Address) (p : Primitive) :
    Similar S (host.enterFrame account p) (host.enterFrame account p) := by
  cases p with
  | call caller target input gas value =>
    refine .bind (similar_ensureTarget target value) fun isThere => ?_
    cases isThere with
    | false => exact .pure _
    | true =>
      refine .bind (.perform _) fun _ => .bind (.store _) fun code => ?_
      exact .depth_bind (fun _ _ h => by rw [h]) fun _ => .pure _
  | callCode | delegateCall =>
    refine .bind (.store _) fun code => ?_
    exact .depth_bind (fun _ _ h => by rw [h]) fun _ => .pure _
  | create caller code gas value =>
    refine .bind (.store _) fun _ => ?_
    dsimp only
    split
    · refine .bind (.store _) fun _ => .bind (.perform _) fun _ => ?_
      exact .depth_bind (fun _ _ h => by rw [h]) fun _ => .pure _
    · refine .bind (.perform _) fun _ => ?_
      exact .depth_bind (fun _ _ h => by rw [h]) fun _ => .pure _

/-- **Primitives are set up alike** on related machines. -/
theorem similar_setUp (p : Primitive) : Similar S (host.setUp p) (host.setUp p) := by
  refine .bind (similar_refusal? _ _ _) fun outcome? => ?_
  cases outcome? with
  | some outcome => exact .pure _
  | none =>
    refine .bind (similar_takeAccount p) fun account => .bind (.store _) fun mark => ?_
    refine .bind (.undoOnFailure mark (similar_enterFrame account p)) fun frame? => ?_
    cases frame? with
    | none => exact .pure _
    | some frame => exact .bind (.enter _) fun _ => .pure _

/-! ### Settling -/

theorem similar_rollBack (mark : Nat) (frame : Frame) (failure : Failure) :
    Similar S (rollBack mark frame failure) (rollBack mark frame failure) :=
  .bind (.store _) fun _ => .enter _

theorem similar_depositCode (mark : Nat) (a : Address) (ended : FrameEnd) :
    Similar S (depositCode mark a ended) (depositCode mark a ended) := by
  unfold depositCode
  cases ended.result with
  | error failure => exact .pure _
  | ok code =>
    dsimp only
    split
    · exact .pure _
    cases Checked.sub ended.gasLeft (Checked.saturate (codeBytePrice * code.length)) with
    | none => exact .pure _
    | some left => exact .bind (.undoOnFailure mark (.store _)) fun _ => .pure _

section

variable (hflag : Similar S (host.flagThrow (φ := φ)) host'.flagThrow)

include hflag

theorem similar_settleCall (mark : Nat) (frame : Frame) (ended : FrameEnd) :
    Similar S (host.settleCall mark frame ended) (host'.settleCall mark frame ended) := by
  unfold settleCall
  cases ended.result with
  | ok output => exact .bind (.enter _) fun _ => .pure _
  | error failure =>
    refine .bind (similar_rollBack mark frame failure) fun _ => ?_
    split
    · exact .fail failure
    · exact .bind hflag fun _ => .pure _

omit [FaultModel φ] in
theorem similar_closeCreation (frame : Frame) (ended : FrameEnd) (failure? : Option Failure)
    (gasLeft : UInt64) :
    Similar S (host.closeCreation frame ended failure? gasLeft)
      (host'.closeCreation frame ended failure? gasLeft) := by
  refine .bind (.enter _) fun _ => ?_
  dsimp only
  split
  · exact .bind hflag fun _ => .pure _
  · exact .pure _

variable (hrules : host'.rules = host.rules)

include hrules

theorem similar_concludeCreation (mark : Nat) (frame : Frame) (ended : FrameEnd) :
    Similar S (host.concludeCreation mark frame ended)
      (host'.concludeCreation mark frame ended) := by
  refine .bind (similar_depositCode mark frame.account ended) fun ⟨failure?, left⟩ => ?_
  dsimp only
  rw [undoesCreation, undoesCreation, hrules]
  split
  · exact .bind (.store _) fun _ => similar_closeCreation hflag frame ended failure? 0
  · exact similar_closeCreation hflag frame ended failure? left

theorem similar_settleCreation (mark : Nat) (frame : Frame) (ended : FrameEnd) :
    Similar S (host.settleCreation mark frame ended) (host'.settleCreation mark frame ended) := by
  unfold settleCreation
  cases ended.result with
  | ok output => exact similar_concludeCreation hflag hrules mark frame ended
  | error failure =>
    dsimp only
    split
    · exact .bind (similar_rollBack mark frame failure) fun _ => .fail failure
    · exact similar_concludeCreation hflag hrules mark frame ended

/-- **Frames are settled alike** on related machines, if watchdogs can be told of a failure. -/
theorem similar_settle (p : Primitive) (mark : Nat) (frame : Frame) (ended : FrameEnd) :
    Similar S (host.settle p mark frame ended) (host'.settle p mark frame ended) := by
  cases p with
  | create => exact similar_settleCreation hflag hrules mark frame ended
  | call | callCode | delegateCall => exact similar_settleCall hflag mark frame ended

end

end Host

end CallWatch
