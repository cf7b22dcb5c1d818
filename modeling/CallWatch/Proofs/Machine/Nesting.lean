import CallWatch.Machine.CallTree
import CallWatch.Machine.Moments
import CallWatch.Proofs.Machine.Along

/-!
# What a run does along its call trees

`Host.Nests R` says of every single step of a run that it follows a relation between machines, given
the trees of the primitives in between: a frame that ran is one tree in the place of those nested in
it.  Then whole primitives follow the relation along their tree (`Host.Nests.dispatch`), and so do
programs along the trees of what they dispatch (`Host.Nests.run`), and the root of a transaction
(`Host.Nests.runRoot`).

This is the reasoning of `Host.Respects` with a list of trees in between, and like there the state
that the setup of a frame marks is at hand when the frame is settled.
-/

namespace CallWatch

open Run

namespace Host

variable {φ : Type} [FaultModel φ] {host : Host} {allowed : Query → Prop}
variable {R : List CallTree → Machine φ → Machine φ → Prop}

/-- Every single step of a run follows a relation along call trees. -/
structure Nests (host : Host) (allowed : Query → Prop)
    (R : List CallTree → Machine φ → Machine φ → Prop) : Prop where
  /-- Replies to requests that start no frame. -/
  reply : ∀ (nested : Primitive → Run φ Outcome) (q : Query), allowed q →
    (∀ p, q ≠ .dispatch p) → Keeps (R []) (host.reply nested q)
  setDepth : ∀ (m : Machine φ) (depth : UInt64), R [] m { m with depth }
  /-- Going back undoes no frame: what ran has run. -/
  rewind : ∀ {calls : List CallTree} {m₀ m : Machine φ}, R calls m₀ m →
    R calls m₀ (store (.revert m₀.store.ledger.snapshot) m).2
  exhausted : ∀ (p : Primitive) (m : Machine φ), R [.bare p (.error .exhausted)] m m
  /-- No frame was set up. -/
  bare : ∀ {p : Primitive} {m m' : Machine φ} {ended : Except Stop Setup}
    (answer : Except Stop Outcome), host.setUp p m = (ended, m') →
    (∀ mark frame, ended ≠ .ok (.ready mark frame)) → R [.bare p answer] m m'
  /-- A frame was set up, and a stop went through it. -/
  unwound : ∀ {p : Primitive} {m m₁ m₂ : Machine φ} {mark : Nat} {frame : Frame}
    {calls : List CallTree} (stop : Stop), host.setUp p m = (.ok (.ready mark frame), m₁) →
    R calls m₁ m₂ → R [.framed p frame calls (.error stop) (.error stop)] m m₂
  /-- A frame was set up, ended and was settled. -/
  settle : ∀ {p : Primitive} {m m₁ m₂ : Machine φ} {mark : Nat} {frame : Frame}
    {calls : List CallTree} (ended : FrameEnd),
    host.setUp p m = (.ok (.ready mark frame), m₁) → R calls m₁ m₂ →
    R [.framed p frame calls (.ok ended) (host.settle p mark frame ended m₂).1] m
      (host.settle p mark frame ended m₂).2

/-- A primitive runs as its first level does, with all others nested in it. -/
theorem exists_dispatch_eq (host : Host) :
    ∃ bound, host.dispatch (φ := φ) = host.primitive (host.dispatchWithin bound) ∧
      host.callTree (φ := φ) =
        host.primitiveTree (host.dispatchWithin bound) (host.treeWithin bound) :=
  ⟨nestingBound - 1, rfl, rfl⟩

/-- A primitive with an outcome had no frame to set up, or its frame ended and was settled. -/
theorem tree_of_primitive {nested : Primitive → Run φ Outcome}
    (tree : Primitive → Machine φ → CallTree) {p : Primitive} {outcome : Outcome}
    {m m' : Machine φ} (h : host.primitive nested p m = (.ok outcome, m')) :
    (host.setUp p m = (.ok (.over outcome), m') ∧
        host.primitiveTree nested tree p m = .bare p (.ok outcome)) ∨
      ∃ mark frame m₁ ended m₂, host.setUp p m = (.ok (.ready mark frame), m₁) ∧
        host.runFrame nested frame frame.calldata m₁ = (.ok ended, m₂) ∧
        host.settle p mark frame ended m₂ = (.ok outcome, m') ∧
        host.primitiveTree nested tree p m =
          .framed p frame (host.frameCalls nested tree frame frame.calldata m₁) (.ok ended)
            (.ok outcome) := by
  obtain ⟨setup, m₁, hs, hrest⟩ := bind_eq_ok_iff.1 h
  cases setup with
  | «over» outcome' =>
    cases hrest
    exact .inl ⟨hs, by simp only [primitiveTree, hs, h]⟩
  | ready mark frame =>
    obtain ⟨ended, m₂, hf, hsettle⟩ := bind_eq_ok_iff.1 hrest
    exact .inr ⟨mark, frame, m₁, ended, m₂, hs, hf, hsettle, by
      simp only [primitiveTree, hs, hf, h]⟩

/-- **What becomes of a frame**: it ends without a program, or the program of its code runs one
deeper than the machine and then is left.  Which it is depends on the frame and the machine only. -/
theorem runFrame_cases (host : Host) (frame : Frame) (input : Bytes) (m : Machine φ) :
    (∃ ended, ∀ nested, host.runFrame nested frame input m = (.ok ended, m) ∧
        (∀ tree, host.frameCalls nested tree frame input m = []) ∧
        ∀ inner, host.frameMoments nested inner frame input m = []) ∨
      frame.code ≠ [] ∧ ∃ depth, depth.toNat = m.depth.toNat + 1 ∧
        ∀ nested, host.runFrame nested frame input m =
            (host.run nested (host.interpreter frame input) >>= leave) { m with depth } ∧
          (∀ tree, host.frameCalls nested tree frame input m =
            host.runCalls nested tree (host.interpreter frame input) { m with depth }) ∧
          ∀ inner, host.frameMoments nested inner frame input m =
            (host.runMoments nested inner (host.interpreter frame input) { m with depth }).map
              (·.inside frame) := by
  unfold runFrame frameCalls frameMoments
  cases host.precompiles[frame.codeAddress]? with
  | some precompile => exact .inl ⟨_, fun _ => ⟨rfl, fun _ => rfl, fun _ => rfl⟩⟩
  | none =>
    dsimp only
    by_cases hempty : frame.code.isEmpty = true
    · simp only [if_pos hempty]
      exact .inl ⟨_, fun _ => ⟨rfl, fun _ => trivial, fun _ => trivial⟩⟩
    simp only [if_neg hempty, bind_of_ok (get_apply m)]
    by_cases hcancelled : m.isCancelled = true
    · simp only [if_pos hcancelled]
      exact .inl ⟨_, fun _ => ⟨rfl, fun _ => trivial, fun _ => trivial⟩⟩
    simp only [if_neg hcancelled]
    cases hadd : Checked.add m.depth 1 with
    | none => exact .inl ⟨_, fun _ => ⟨rfl, fun _ => rfl, fun _ => rfl⟩⟩
    | some depth =>
      have hcode : frame.code ≠ [] := fun h => hempty (List.isEmpty_iff.2 h)
      refine .inr ⟨hcode, depth, Checked.add_eq_some_iff.1 hadd, fun nested => ?_⟩
      exact ⟨rfl, fun _ => rfl, fun _ => rfl⟩

namespace Nests

variable [Accumulates R] {nested : Primitive → Run φ Outcome}
variable {tree : Primitive → Machine φ → CallTree}

/-! ### Programs and frames -/

omit [FaultModel φ] in
/-- One computation after the other dispatches what both do. -/
theorem bind {α β : Type} {x : Run φ α} {f : α → Run φ β} {calls : List CallTree}
    {next : α → Machine φ → List CallTree} {m : Machine φ} (hx : R calls m (x m).2)
    (hf : ∀ a m', R calls m m' → R (next a m') m' (f a m').2) :
    R (calls ++ callsAfter x next m) m ((x >>= f) m).2 := by
  rw [bind_apply, callsAfter]
  rcases hxm : x m with ⟨stop | a, m₁⟩
  all_goals rw [hxm] at hx
  · rw [List.append_nil]
    exact hx
  · exact Accumulates.trans hx (hf a m₁ hx)

omit [FaultModel φ] in
/-- What follows may take no step along the trees. -/
theorem bind_keeps {α β : Type} {x : Run φ α} {f : α → Run φ β} {calls : List CallTree}
    {m₀ m : Machine φ} (hx : R calls m₀ (x m).2) (hf : ∀ a, Keeps (R []) (f a)) :
    R calls m₀ ((x >>= f) m).2 :=
  Accumulates.keeps_after hx hf

theorem guarded (h : host.Nests allowed R) {α : Type} {x : Run φ α} {calls : List CallTree}
    {m : Machine φ} (hx : R calls m (x m).2) : R calls m (Run.guarded x m).2 :=
  Accumulates.guarded hx h.rewind h.setDepth

/-- **A program does what the primitives that it dispatches do, in their order.** -/
theorem run (h : host.Nests allowed R)
    (hnested : ∀ p m, R [tree p m] m (nested p m).2) {α : Type} {program : Program α}
    (hprogram : program.Only allowed) (m : Machine φ) :
    R (host.runCalls nested tree program m) m (host.run nested program m).2 := by
  induction program generalizing m with
  | done value => exact Accumulates.refl m
  | panic message => exact Accumulates.refl m
  | ask query next ih =>
    obtain ⟨hquery, hnext⟩ := hprogram
    refine bind ?_ fun reply m' _ => ih reply (hnext reply) m'
    by_cases hd : ∃ p, query = .dispatch p
    · -- a nested primitive, whose failure is a reply
      obtain ⟨p, rfl⟩ := hd
      rw [show (host.reply nested (.dispatch p) m).2 = _ from snd_attempt (nested p) m]
      exact hnested p m
    · have hreply := h.reply nested query hquery (fun p hp => hd ⟨p, hp⟩) m
      cases query with
      | dispatch p => exact (hd ⟨p, rfl⟩).elim
      | _ => exact hreply
  | guarded body next ihBody ihNext =>
    obtain ⟨hbody, hnext⟩ := hprogram
    refine bind ?_ fun answer m' _ => ihNext answer (hnext answer) m'
    rw [snd_attempt]
    exact h.guarded (bind_keeps (ihBody hbody m) fun ended => .ofExcept ended)

theorem runFrame (h : host.Nests allowed R)
    (hnested : ∀ p m, R [tree p m] m (nested p m).2) (hprograms : host.interpreter.Only allowed)
    (frame : Frame) (input : Bytes) (m : Machine φ) :
    R (host.frameCalls nested tree frame input m) m (host.runFrame nested frame input m).2 := by
  rcases host.runFrame_cases frame input m with ⟨ended, hends⟩ | ⟨-, depth, -, hstarts⟩
  · obtain ⟨hrun, hcalls, -⟩ := hends nested
    rw [hrun, hcalls]
    exact Accumulates.refl m
  · -- around the program only the depth changes
    obtain ⟨hrun, hcalls, -⟩ := hstarts nested
    have hprogram := h.run hnested (hprograms frame input) { m with depth }
    rw [hrun, hcalls]
    exact Accumulates.trans (h.setDepth m depth) (bind_keeps hprogram (keeps_leave h.setDepth))

/-! ### Primitives -/

theorem primitive (h : host.Nests allowed R) (hnested : ∀ p m, R [tree p m] m (nested p m).2)
    (hprograms : host.interpreter.Only allowed) (p : Primitive) (m : Machine φ) :
    R [host.primitiveTree nested tree p m] m (host.primitive nested p m).2 := by
  unfold primitiveTree Host.primitive
  rw [bind_apply]
  rcases hs : host.setUp p m with ⟨stop | outcome | ⟨mark, frame⟩, m₁⟩
  · exact h.bare _ hs fun _ _ heq => by cases heq
  · exact h.bare _ hs fun _ _ heq => by cases heq
  · have hframe := h.runFrame hnested hprograms frame frame.calldata m₁
    dsimp only
    rw [bind_apply]
    rcases hf : host.runFrame nested frame frame.calldata m₁ with ⟨stop | ended, m₂⟩
    all_goals rw [hf] at hframe
    · exact h.unwound stop hs hframe
    · exact h.settle ended hs hframe

theorem dispatchWithin (h : host.Nests allowed R) (hprograms : host.interpreter.Only allowed)
    (bound : Nat) (p : Primitive) (m : Machine φ) :
    R [host.treeWithin bound p m] m (host.dispatchWithin bound p m).2 := by
  -- what is nested in a primitive runs within a smaller bound
  induction bound generalizing p m with
  | zero => exact h.exhausted p m
  | succ bound ih => exact h.primitive ih hprograms p m

/-- **What every single step follows, every primitive follows along its tree**, whatever is nested
in it and however it ends. -/
theorem dispatch (h : host.Nests allowed R) (hprograms : host.interpreter.Only allowed)
    (p : Primitive) (m : Machine φ) : R [host.callTree p m] m (host.dispatch p m).2 :=
  h.dispatchWithin hprograms _ p m

/-- The root of a transaction: raising a nonce outside the guard starts no frame. -/
theorem runRoot (h : host.Nests allowed R) (hprograms : host.interpreter.Only allowed)
    (hstore : ∀ op, Keeps (R []) (store op)) (tx : Transaction) (m : Machine φ) :
    R (host.rootCalls tx m) m (host.runRoot tx m).2 := by
  have hguarded (p : Primitive) (m : Machine φ) := h.guarded (h.dispatch hprograms p m)
  unfold Host.runRoot rootCalls
  cases tx.kind with
  | create => exact hguarded _ m
  | call target =>
    have hread : R [] m _ := hstore (.getNonce tx.sender) m
    refine bind hread fun nonce m₁ _ => ?_
    cases Checked.add nonce 1 with
    | none => exact Accumulates.refl m₁
    | some next =>
      have hraise : R [] m₁ _ := hstore (.setNonce tx.sender next) m₁
      exact bind hraise fun _ m₂ _ => hguarded _ m₂

end Nests

end Host

end CallWatch
