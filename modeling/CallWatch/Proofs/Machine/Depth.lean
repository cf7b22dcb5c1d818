import CallWatch.Machine.Moments
import CallWatch.Proofs.Machine.Logging
import CallWatch.Proofs.Machine.Metering
import CallWatch.Proofs.Machine.Refusal
import CallWatch.Proofs.Machine.Steadiness

/-!
# The depth of the machine

The depth counts the programs that are running, as long as no program writes it.

The first consequence is that the nesting which `Host.dispatch` allows for never runs out.  Every
nested primitive starts one deeper, so what is left of the nesting and the depth together never fall
below `2 ^ 64`, which no depth reaches.  Two bounds that are large enough in this sense give the
same run (`Host.meets_dispatchWithin`), so a run is the one without a bound, and it ends.

The second is what the depth is at each moment of a run (`Moment.IsLevel`).  It is carried along the
run together with the trees of its primitives, as a panic that is not caught leaves the depth where
it was raised.  Both are part of `Host.depth_disciplined`.
-/

namespace CallWatch

open CallTree Run

/-- Whether a request leaves the depth of the machine to the machine. -/
def Query.SparesDepth : Query → Prop
  | .setDepth _ => False
  | _ => True

/-- A panic went through the primitive. -/
def CallTree.HasPanicked (call : CallTree) : Prop :=
  match call.answer with
  | .error (.panicked _) => True
  | _ => False

instance : DecidablePred CallTree.HasPanicked := fun call => by
  unfold CallTree.HasPanicked
  split <;> infer_instance

theorem CallTree.hasPanicked_iff {call : CallTree} :
    call.HasPanicked ↔ ∃ message, call.answer = .error (.panicked message) := by
  unfold HasPanicked
  rcases call.answer with ((_ | _ | _) | _) <;> simp

/-! ### Runs that do not notice their bound -/

namespace Run

variable {φ α β : Type} {d : Nat}

/-- On every machine that is at least this deep, the computations are the same, they end within the
nesting that they were allowed, and they leave the machine no less deep than it was. -/
def Meets (d : Nat) (x y : Run φ α) : Prop :=
  ∀ m, d ≤ m.depth.toNat →
    x m = y m ∧ (x m).1 ≠ .error .exhausted ∧ m.depth.toNat ≤ (x m).2.depth.toNat

theorem OnlyFails.notExhausted {x : Run φ α} (hx : OnlyFails x) :
    StopsWithin (· ≠ .exhausted) x := by
  intro m stop hstop
  obtain ⟨failure, -, rfl⟩ := hx m stop hstop
  exact nofun

namespace Meets

theorem of_isSteady {x : Run φ α} (hx : IsSteady x) (hstops : StopsWithin (· ≠ .exhausted) x) :
    Meets d x x := by
  intro m _
  have hdepth : (x m).2.depth = m.depth := hx.keeps m
  exact ⟨rfl, fun h => hstops m _ h rfl, hdepth ▸ Nat.le_refl _⟩

/-- No machine is as deep as that. -/
theorem of_unreachable {x y : Run φ α} (hd : Nat.pow 2 64 ≤ d) : Meets d x y := by
  intro m hm
  have := m.depth.toNat_lt
  rw [Nat.pow_eq] at hd
  omega

theorem pure (a : α) : Meets d (Pure.pure a : Run φ α) (Pure.pure a) :=
  of_isSteady (.pure a) (.pure a)

theorem ofExcept (answer : Except Failure α) :
    Meets d (Run.ofExcept answer : Run φ α) (Run.ofExcept answer) := by
  cases answer with
  | ok a => exact pure a
  | error failure => exact of_isSteady (.fail failure) (.fail nofun)

variable {x y : Run φ α} {f g : α → Run φ β}

theorem bind (hx : Meets d x y) (hf : ∀ a, Meets d (f a) (g a)) :
    Meets d (x >>= f) (y >>= g) := by
  intro m hm
  obtain ⟨heq, hends, hdeeper⟩ := hx m hm
  rw [bind_apply, bind_apply, ← heq]
  rcases hxm : x m with ⟨stop | a, m₁⟩
  all_goals rw [hxm] at hends hdeeper
  · exact ⟨rfl, fun h => hends (congrArg Except.error (Except.error.inj h)), hdeeper⟩
  · -- the second part starts no less deep than the first one did
    obtain ⟨heq', hends', hdeeper'⟩ := hf a m₁ (Nat.le_trans hm hdeeper)
    exact ⟨heq', hends', Nat.le_trans hdeeper hdeeper'⟩

theorem attempt (hx : Meets d x y) : Meets d (Run.attempt x) (Run.attempt y) := by
  intro m hm
  obtain ⟨heq, hends, hdeeper⟩ := hx m hm
  rw [attempt_apply, attempt_apply, ← heq]
  rcases hxm : x m with ⟨(failure | message | _) | a, m₁⟩
  all_goals rw [hxm] at hends hdeeper
  case error.exhausted => exact (hends rfl).elim
  all_goals exact ⟨rfl, nofun, hdeeper⟩

/-- What is done about a panic puts the depth back at most to where the guard was. -/
theorem guarded [FaultModel φ] (hx : Meets d x y) : Meets d (Run.guarded x) (Run.guarded y) := by
  intro m hm
  obtain ⟨heq, hends, hdeeper⟩ := hx m hm
  rw [guarded_apply, guarded_apply, ← heq]
  rcases hxm : x m with ⟨(failure | message | _) | a, m₁⟩
  all_goals rw [hxm] at hends hdeeper
  case error.panicked =>
    have hrevert := IsSteady.store (φ := φ) (.revert m.store.ledger.snapshot)
    have hdepth : (store (.revert m.store.ledger.snapshot) m₁).2.depth = m₁.depth :=
      hrevert.keeps m₁
    have hstops := (OnlyFails.store (φ := φ) (.revert m.store.ledger.snapshot)).notExhausted m₁
    dsimp only
    rw [bind_apply]
    rcases hr : store (.revert m.store.ledger.snapshot) m₁ with ⟨stop | _, m₂⟩
    all_goals rw [hr] at hdepth hstops
    · refine ⟨rfl, fun h => hstops stop rfl (Except.error.inj h), ?_⟩
      exact (hdepth ▸ hdeeper : m.depth.toNat ≤ m₂.depth.toNat)
    · exact ⟨rfl, nofun, Nat.le_refl _⟩
  all_goals exact ⟨rfl, hends, hdeeper⟩

end Meets

end Run

namespace Host

section

variable {φ : Type} [FaultModel φ] {host : Host} {d : Nat}
  {nested nested' : Primitive → Run φ Outcome}

theorem meets_run (hnested : ∀ p, Meets d (nested p) (nested' p)) {α : Type} {program : Program α}
    (hprogram : program.Only Query.SparesDepth) :
    Meets d (host.run nested program) (host.run nested' program) := by
  induction program with
  | done value => exact .pure value
  | panic message =>
    intro m _
    exact ⟨rfl, nofun, Nat.le_refl _⟩
  | ask query next ih =>
    obtain ⟨hquery, hnext⟩ := hprogram
    refine .bind ?_ fun reply => ih reply (hnext reply)
    by_cases hd : ∃ p, query = .dispatch p
    · obtain ⟨p, rfl⟩ := hd
      exact .attempt (hnested p)
    · -- every other reply is the same whatever the bound
      have hother : ∀ p, query ≠ .dispatch p := fun p hp => hd ⟨p, hp⟩
      have hsame : host.reply nested' query = host.reply nested query := by
        cases query with
        | dispatch p => exact (hother p rfl).elim
        | _ => rfl
      have hsteady : IsSteady (host.reply nested query) := by
        refine isSteady_reply nested hother fun depth h => ?_
        rw [h] at hquery
        exact hquery
      rw [hsame]
      exact .of_isSteady hsteady (stopsWithin_reply nested hother)
  | guarded body next ihBody ihNext =>
    obtain ⟨hbody, hnext⟩ := hprogram
    refine .bind (.attempt (.guarded (.bind (ihBody hbody) .ofExcept))) fun answer => ?_
    exact ihNext answer (hnext answer)

/-- The program of a frame runs one deeper than the frame, so one level less of nesting does. -/
theorem meets_runFrame (hnested : ∀ p, Meets (d + 1) (nested p) (nested' p))
    (hprograms : host.interpreter.Only Query.SparesDepth) (frame : Frame) (input : Bytes) :
    Meets d (host.runFrame nested frame input) (host.runFrame nested' frame input) := by
  intro m hm
  rcases host.runFrame_cases frame input m with ⟨ended, hends⟩ | ⟨-, depth, hdeeper, hstarts⟩
  · rw [(hends nested).1, (hends nested').1]
    exact ⟨rfl, nofun, Nat.le_refl _⟩
  rw [(hstarts nested).1, (hstarts nested').1]
  have hmeets : Meets (d + 1) (host.run nested (host.interpreter frame input))
      (host.run nested' (host.interpreter frame input)) :=
    meets_run hnested (hprograms frame input)
  obtain ⟨heq, hends, hafter⟩ := hmeets { m with depth } (by omega : d + 1 ≤ depth.toNat)
  change depth.toNat ≤ _ at hafter
  rw [bind_apply, bind_apply, ← heq]
  rcases hr : host.run nested (host.interpreter frame input) { m with depth } with
    ⟨stop | ended, m₁⟩
  all_goals rw [hr] at hends hafter
  · refine ⟨rfl, fun h => hends (congrArg Except.error (Except.error.inj h)), ?_⟩
    exact Nat.le_trans (by omega : m.depth.toNat ≤ depth.toNat) hafter
  · -- the depth after the program is at least the one that it started at, so there is one to leave
    change depth.toNat ≤ m₁.depth.toNat at hafter
    obtain ⟨left, hleave, hleft⟩ := leave_of_pos ended (by omega : 0 < m₁.depth.toNat)
    dsimp only
    rw [hleave]
    refine ⟨rfl, nofun, ?_⟩
    show m.depth.toNat ≤ left.toNat
    omega

theorem meets_primitive (hnested : ∀ p, Meets (d + 1) (nested p) (nested' p))
    (hprograms : host.interpreter.Only Query.SparesDepth) (p : Primitive) :
    Meets d (host.primitive nested p) (host.primitive nested' p) := by
  refine .bind (.of_isSteady (host.isSteady_setUp p) (host.onlyFails_setUp p).notExhausted) ?_
  rintro (outcome | ⟨mark, frame⟩)
  · exact .pure outcome
  · refine .bind (meets_runFrame hnested hprograms frame _) fun ended => ?_
    exact .of_isSteady (host.isSteady_settle p mark frame ended)
      (host.onlyFails_settle p mark frame ended).notExhausted

/-- **Bounds that leave room for every depth give the same run.**  A depth is less than `2 ^ 64`,
so on a machine with depth `d` or more the primitives cannot nest `2 ^ 64 - d` deep. -/
theorem meets_dispatchWithin (hprograms : host.interpreter.Only Query.SparesDepth)
    {bound bound' : Nat} (h : Nat.pow 2 64 ≤ d + bound) (h' : Nat.pow 2 64 ≤ d + bound')
    (p : Primitive) :
    Meets (φ := φ) d (host.dispatchWithin bound p) (host.dispatchWithin bound' p) := by
  induction bound generalizing d bound' p with
  | zero => exact .of_unreachable h
  | succ bound ih =>
    cases bound' with
    | zero => exact .of_unreachable h'
    | succ bound' =>
      refine meets_primitive (fun p => ?_) hprograms p
      have hroom : Nat.pow 2 64 ≤ d + 1 + bound := by omega
      have hroom' : Nat.pow 2 64 ≤ d + 1 + bound' := by omega
      exact ih hroom hroom' p

/-- **Primitives run as if their nesting had no bound**: the nesting that they are allowed never
runs out, and inside of them every primitive runs as it would by itself. -/
theorem dispatch_unbounded (hprograms : host.interpreter.Only Query.SparesDepth) (p : Primitive)
    (m : Machine φ) :
    (host.dispatch p m).1 ≠ .error .exhausted ∧
      host.dispatch p m = host.primitive host.dispatch p m := by
  have hmore : Meets (φ := φ) 0 (host.dispatchWithin nestingBound p)
      (host.dispatchWithin (nestingBound + 1) p) :=
    meets_dispatchWithin hprograms (Nat.le_add_left _ _)
      (Nat.le_trans (Nat.le_succ _) (Nat.le_add_left _ _)) p
  obtain ⟨heq, hends, -⟩ := hmore m (Nat.zero_le _)
  exact ⟨hends, heq⟩

end

/-! ### The depth at each moment -/

section

variable {φ : Type}

/-- The frames that are running, innermost first, are at one depth after the other; the outermost
one is at this depth. -/
def Stacked (depth : Nat) : List Frame → Prop
  | [] => True
  | frame :: outer => frame.depth.toNat = depth + outer.length ∧ Stacked depth outer

theorem Stacked.concat {depth : Nat} {running : List Frame} {frame : Frame}
    (h : Stacked (depth + 1) running) (hframe : frame.depth.toNat = depth) :
    Stacked depth (running ++ [frame]) := by
  induction running with
  | nil => exact ⟨hframe, trivial⟩
  | cons inner outer ih =>
    obtain ⟨hinner, houter⟩ := h
    refine ⟨?_, ih houter⟩
    show inner.depth.toNat = depth + (outer ++ [frame]).length
    rw [List.length_append, List.length_singleton]
    omega

/-- Whether a host lets the program of a frame at this depth run. -/
def Permits (host : Host) (depth : UInt64) : Prop :=
  depth ≤ host.config.maxCallDepth ∧ (host.config.noRecursion → depth = 0)

end

end Host

/-- The machine has counted the frames that are running, from this depth on, and all of them may
run. -/
structure Moment.IsLevel {φ : Type} (host : Host) (depth : Nat) (moment : Moment φ) : Prop where
  stacked : Host.Stacked depth moment.running
  depth_eq : moment.machine.depth.toNat = depth + moment.running.length
  permitted : ∀ frame ∈ moment.running, host.Permits frame.depth

/-- The moments of a program are moments of its frame. -/
theorem Moment.IsLevel.inside {φ : Type} {host : Host} {depth : Nat} {moment : Moment φ}
    {frame : Frame} (h : moment.IsLevel host (depth + 1)) (hframe : frame.depth.toNat = depth)
    (hpermitted : host.Permits frame.depth) : (moment.inside frame).IsLevel host depth := by
  refine ⟨h.stacked.concat hframe, ?_, ?_⟩
  · show moment.machine.depth.toNat = depth + (moment.running ++ [frame]).length
    rw [h.depth_eq, List.length_append, List.length_singleton]
    omega
  · intro frame' hframe'
    rcases List.mem_append.1 hframe' with hinner | hlast
    · exact h.permitted frame' hinner
    · rwa [List.mem_singleton.1 hlast]

namespace Host

section

variable {φ : Type} {host : Host} {depth : Nat} {m : Machine φ}

/-- If no primitive in these trees panicked, the computation leaves the depth as it was, unless the
nesting ran out, and at each of its moments the machine has counted the frames that are running. -/
def KeepsDepth {α : Type} (host : Host) (depth : Nat) (calls : List CallTree)
    (moments : List (Moment φ)) (m : Machine φ) (ended : Except Stop α × Machine φ) : Prop :=
  (∀ call ∈ allCalls calls, ¬call.HasPanicked) →
    (ended.1 ≠ .error .exhausted → ended.2.depth = m.depth) ∧
      ∀ moment ∈ moments, moment.IsLevel host depth

namespace KeepsDepth

variable {α β : Type} {calls : List CallTree} {moments : List (Moment φ)} {x : Run φ α}
  {f : α → Run φ β}

theorem of_isSteady (hx : IsSteady x) (m : Machine φ) : KeepsDepth host depth [] [] m (x m) :=
  fun _ => ⟨fun _ => hx.keeps m, List.forall_mem_nil _⟩

theorem bind {next : α → Machine φ → List CallTree} {later : α → Machine φ → List (Moment φ)}
    (hx : KeepsDepth host depth calls moments m (x m))
    (hf : ∀ a m', m'.depth = m.depth →
      KeepsDepth host depth (next a m') (later a m') m' (f a m')) :
    KeepsDepth host depth (calls ++ callsAfter x next m) (moments ++ momentsAfter x later m) m
      ((x >>= f) m) := by
  intro hcalls
  rw [allCalls_append, List.forall_mem_append] at hcalls
  obtain ⟨hcalls, hnext⟩ := hcalls
  obtain ⟨hdepth, hmoments⟩ := hx hcalls
  rw [List.forall_mem_append, bind_apply]
  rw [callsAfter] at hnext
  rw [momentsAfter]
  rcases hxm : x m with ⟨stop | a, m₁⟩
  all_goals rw [hxm] at hdepth hnext
  · refine ⟨fun hended => hdepth fun h => ?_, hmoments, List.forall_mem_nil _⟩
    exact hended (congrArg Except.error (Except.error.inj h))
  · have hsame : m₁.depth = m.depth := hdepth fun h => by cases h
    obtain ⟨hdepth', hlater⟩ := hf a m₁ hsame hnext
    exact ⟨fun hended => (hdepth' hended).trans hsame, hmoments, hlater⟩

/-- What follows may be steady. -/
theorem bind_isSteady (hx : KeepsDepth host depth calls moments m (x m))
    (hf : ∀ a, IsSteady (f a)) : KeepsDepth host depth calls moments m ((x >>= f) m) := by
  intro hcalls
  obtain ⟨hdepth, hmoments⟩ := hx hcalls
  refine ⟨fun hended => ?_, hmoments⟩
  rw [bind_apply] at hended ⊢
  rcases hxm : x m with ⟨stop | a, m₁⟩
  all_goals rw [hxm] at hdepth hended
  · exact hdepth fun h => hended (congrArg Except.error (Except.error.inj h))
  · exact ((hf a).keeps m₁).trans (hdepth nofun)

theorem attempt (hx : KeepsDepth host depth calls moments m (x m)) :
    KeepsDepth host depth calls moments m (Run.attempt x m) := by
  intro hcalls
  obtain ⟨hdepth, hmoments⟩ := hx hcalls
  refine ⟨fun hended => ?_, hmoments⟩
  rw [snd_attempt]
  refine hdepth fun hexhausted => hended ?_
  rw [attempt_apply]
  rcases hxm : x m with ⟨ended, m₁⟩
  rw [hxm] at hexhausted
  obtain rfl : ended = .error .exhausted := hexhausted
  rfl

/-- A panic that is caught leaves the depth where it was raised, or where the guard was. -/
theorem guarded [FaultModel φ] (hx : KeepsDepth host depth calls moments m (x m)) :
    KeepsDepth host depth calls moments m (Run.guarded x m) := by
  intro hcalls
  obtain ⟨hdepth, hmoments⟩ := hx hcalls
  refine ⟨fun hended => ?_, hmoments⟩
  rw [guarded_apply] at hended ⊢
  rcases hxm : x m with ⟨(failure | message | _) | a, m₁⟩
  all_goals rw [hxm] at hdepth hended
  case error.panicked =>
    have hsame : m₁.depth = m.depth := hdepth nofun
    have hrevert : (store (.revert m.store.ledger.snapshot) m₁).2.depth = m₁.depth :=
      (IsSteady.store (φ := φ) _).keeps m₁
    dsimp only
    rw [bind_apply]
    rcases hr : store (.revert m.store.ledger.snapshot) m₁ with ⟨stop | _, m₂⟩
    all_goals rw [hr] at hrevert
    · exact hrevert.trans hsame
    · rfl
  all_goals exact hdepth hended

end KeepsDepth

end

section

variable {φ : Type} [FaultModel φ] {host : Host} {nested : Primitive → Run φ Outcome}
  {tree : Primitive → Machine φ → CallTree} {inner : Primitive → Machine φ → List (Moment φ)}

omit [FaultModel φ] in
/-- A program starts at the depth of its machine. -/
theorem isLevel_start (host : Host) (m : Machine φ) :
    (⟨[], m⟩ : Moment φ).IsLevel host m.depth.toNat :=
  ⟨trivial, rfl, List.forall_mem_nil _⟩

theorem keepsDepth_run
    (hnested : ∀ p m, KeepsDepth host m.depth.toNat [tree p m] (inner p m) m (nested p m))
    {α : Type} {program : Program α} (hprogram : program.Only Query.SparesDepth) (m : Machine φ) :
    KeepsDepth host m.depth.toNat (host.runCalls nested tree program m)
      (host.runMoments nested inner program m) m (host.run nested program m) := by
  induction program generalizing m with
  | done value =>
    exact fun _ => ⟨fun _ => rfl, List.forall_mem_singleton.2 (host.isLevel_start m)⟩
  | panic message =>
    exact fun _ => ⟨fun _ => rfl, List.forall_mem_singleton.2 (host.isLevel_start m)⟩
  | ask query next ih =>
    obtain ⟨hquery, hnext⟩ := hprogram
    have hreply : KeepsDepth host m.depth.toNat (replyCalls tree query m)
        (replyMoments inner query m) m (host.reply nested query m) := by
      by_cases hd : ∃ p, query = .dispatch p
      · obtain ⟨p, rfl⟩ := hd
        exact .attempt (hnested p m)
      · have hsteady : IsSteady (host.reply nested query) := by
          refine isSteady_reply nested (fun p hp => hd ⟨p, hp⟩) fun depth h => ?_
          rw [h] at hquery
          exact hquery
        have hother : KeepsDepth host m.depth.toNat [] [] m (host.reply nested query m) :=
          .of_isSteady hsteady m
        cases query with
        | dispatch p => exact (hd ⟨p, rfl⟩).elim
        | _ => exact hother
    intro hcalls
    obtain ⟨hdepth, hmoments⟩ := hreply.bind
      (fun reply m' hsame => hsame ▸ ih reply (hnext reply) m') hcalls
    exact ⟨hdepth, List.forall_mem_cons.2 ⟨host.isLevel_start m, hmoments⟩⟩
  | guarded body next ihBody ihNext =>
    obtain ⟨hbody, hnext⟩ := hprogram
    have hended := (ihBody hbody m).bind_isSteady fun ended => .ofExcept ended
    refine .bind (.attempt (.guarded hended)) fun answer m' hsame => ?_
    rw [← hsame]
    exact ihNext answer (hnext answer) m'

/-- Where a frame is ready, its program is permitted at the depth of the machine. -/
theorem permits_of_ready {p : Primitive} {mark : Nat} {frame : Frame} {m m' : Machine φ}
    (h : host.setUp p m = (.ok (.ready mark frame), m')) : host.Permits m.depth := by
  obtain ⟨outcome?, m₁, hrefusal, h⟩ := bind_eq_ok_iff.1 h
  have hrefuses := refuses_iff hrefusal
  cases outcome? with
  | some outcome => cases h
  | none =>
    have hno : ¬host.Refuses p m := fun hr => by cases hrefuses.1 hr
    refine ⟨UInt64.not_lt.1 fun hdeep => hno (.inr (.inl hdeep)), fun hconfig => ?_⟩
    by_contra hdepth
    have hnested : 0 < m.depth := by
      rw [UInt64.lt_iff_toNat_lt]
      exact Nat.pos_of_ne_zero fun hz => hdepth (UInt64.toNat_inj.1 hz)
    exact hno (.inl ⟨hconfig, hnested⟩)

/-- While the program of a frame runs, the depth is one more; afterwards it is what it was. -/
theorem keepsDepth_runFrame
    (hnested : ∀ p m, KeepsDepth host m.depth.toNat [tree p m] (inner p m) m (nested p m))
    (hprograms : host.interpreter.Only Query.SparesDepth) {frame : Frame} (input : Bytes)
    {m : Machine φ} (hframe : frame.depth = m.depth) (hpermitted : host.Permits m.depth)
    (hcalls : ∀ call ∈ allCalls (host.frameCalls nested tree frame input m), ¬call.HasPanicked) :
    (∀ ended m', host.runFrame nested frame input m = (.ok ended, m') → m'.depth = m.depth) ∧
      ∀ moment ∈ host.frameMoments nested inner frame input m,
        moment.IsLevel host m.depth.toNat := by
  rcases host.runFrame_cases frame input m with ⟨ended, hends⟩ | ⟨-, depth, hdeeper, hstarts⟩
  · obtain ⟨hrun, -, hnone⟩ := hends nested
    rw [hrun, hnone]
    refine ⟨fun ended m' h => ?_, List.forall_mem_nil _⟩
    cases h
    rfl
  obtain ⟨hrun, hprogramCalls, hprogramMoments⟩ := hstarts nested
  rw [hprogramCalls] at hcalls
  rw [hrun, hprogramMoments]
  obtain ⟨hdepth, hmoments⟩ := keepsDepth_run hnested (hprograms frame input)
    { m with depth } hcalls
  dsimp only at hdepth hmoments
  rw [hdeeper] at hmoments
  constructor
  · intro ended m' h
    obtain ⟨ended', m₁, hr, h⟩ := bind_eq_ok_iff.1 h
    have hsame : m₁.depth.toNat = m.depth.toNat + 1 := by
      rw [hr] at hdepth
      rw [hdepth nofun]
      exact hdeeper
    -- the depth after the program is the one at which it started, so there is one to leave
    obtain ⟨left, hleave, hleft⟩ := leave_of_pos ended' (by omega : 0 < m₁.depth.toNat)
    rw [hleave] at h
    cases h
    show left = m.depth
    rw [← UInt64.toNat_inj]
    omega
  · rw [List.forall_mem_map]
    intro moment hmoment
    exact (hmoments moment hmoment).inside (congrArg UInt64.toNat hframe) (hframe ▸ hpermitted)

theorem keepsDepth_primitive
    (hnested : ∀ p m, KeepsDepth host m.depth.toNat [tree p m] (inner p m) m (nested p m))
    (hprograms : host.interpreter.Only Query.SparesDepth) (p : Primitive) (m : Machine φ) :
    KeepsDepth host m.depth.toNat [host.primitiveTree nested tree p m]
      (host.primitiveMoments nested inner p m) m (host.primitive nested p m) := by
  have hopens := host.opens_setUp p m
  intro hcalls
  rw [allCalls_singleton] at hcalls
  unfold primitiveTree at hcalls
  unfold primitiveMoments
  rw [primitive, bind_apply] at hcalls ⊢
  rcases hs : host.setUp p m with ⟨stop | outcome | ⟨mark, frame⟩, m₁⟩
  all_goals rw [hs] at hopens hcalls
  · exact ⟨fun _ => hopens.depth_eq, List.forall_mem_nil _⟩
  · exact ⟨fun _ => hopens.depth_eq, List.forall_mem_nil _⟩
  obtain ⟨hdepth, s, hm₁⟩ := hopens
  have hsame : m₁.depth = m.depth := by rw [hm₁]
  have hpermitted : host.Permits m₁.depth := by
    rw [hsame]
    exact permits_of_ready hs
  dsimp only at hcalls ⊢
  obtain ⟨hpanicked, hcalls⟩ := List.forall_mem_cons.1 hcalls
  obtain ⟨hframe, hmoments⟩ := keepsDepth_runFrame hnested hprograms frame.calldata
    (hdepth.trans hsame.symm) hpermitted hcalls
  rw [hsame] at hframe hmoments
  refine ⟨fun hended => ?_, hmoments⟩
  rw [hasPanicked_iff] at hpanicked
  rw [bind_apply] at hpanicked hended ⊢
  rcases hf : host.runFrame nested frame frame.calldata m₁ with
    ⟨(failure | message | _) | ended, m₂⟩
  all_goals rw [hf] at hpanicked hended
  · exact (neverFails_runFrame nested frame frame.calldata m₁ _ (by rw [hf]) failure rfl).elim
  · exact (hpanicked ⟨message, rfl⟩).elim
  · exact (hended rfl).elim
  · -- the frame ended, and settling it is steady
    have hsettle := (host.isSteady_settle (φ := φ) p mark frame ended).keeps m₂
    exact hsettle.trans (hframe ended m₂ hf)

theorem keepsDepth_dispatchWithin (hprograms : host.interpreter.Only Query.SparesDepth)
    (bound : Nat) (p : Primitive) (m : Machine φ) :
    KeepsDepth host m.depth.toNat [host.treeWithin bound p m] (host.momentsWithin bound p m) m
      (host.dispatchWithin bound p m) := by
  -- what is nested in a primitive runs within a smaller bound
  induction bound generalizing p m with
  | zero => exact fun _ => ⟨fun hended => (hended rfl).elim, List.forall_mem_nil _⟩
  | succ bound ih => exact keepsDepth_primitive ih hprograms p m

/-- While a program of a primitive has control, a frame is running. -/
theorem running_of_mem_moments {p : Primitive} {m : Machine φ} {moment : Moment φ}
    (h : moment ∈ host.primitiveMoments nested inner p m) : moment.running ≠ [] := by
  unfold primitiveMoments at h
  rcases hs : host.setUp p m with ⟨stop | outcome | ⟨mark, frame⟩, m₁⟩
  all_goals rw [hs] at h
  · cases h
  · cases h
  dsimp only at h
  rcases host.runFrame_cases frame frame.calldata m₁ with ⟨ended, hends⟩ | ⟨-, depth, -, hstarts⟩
  · rw [(hends nested).2.2 inner] at h
    cases h
  · rw [(hstarts nested).2.2 inner, List.mem_map] at h
    obtain ⟨moment', -, rfl⟩ := h
    exact List.append_ne_nil_of_right_ne_nil _ (List.cons_ne_nil frame [])

/-- **Depth discipline.**  Programs that leave the depth to the machine, and may otherwise start
each other without end, run as if their nesting had no bound, so they end.  Unless a panic went
through a primitive, the depth afterwards is the one before, and while a program has control

* the depth is one more than that of the frame which runs it,
* no frame that is running is deeper than the configuration allows,
* the depth has counted the frames that are running, so from depth zero there is at most one more
  than the deepest call may be deep, and only one where nothing may be nested. -/
theorem depth_disciplined (hprograms : host.interpreter.Only Query.SparesDepth) (p : Primitive)
    (m : Machine φ) :
    ((host.dispatch p m).1 ≠ .error .exhausted ∧
        host.dispatch p m = host.primitive host.dispatch p m) ∧
      ((∀ call ∈ (host.callTree p m).calls, ¬call.HasPanicked) →
        (host.dispatch p m).2.depth = m.depth ∧
          ∀ moment ∈ host.moments p m,
            (∃ frame outer, moment.running = frame :: outer ∧
              moment.machine.depth.toNat = frame.depth.toNat + 1) ∧
            (∀ frame ∈ moment.running, frame.depth ≤ host.config.maxCallDepth) ∧
            moment.machine.depth.toNat = m.depth.toNat + moment.running.length ∧
            (m.depth = 0 → moment.running.length ≤ host.config.maxCallDepth.toNat + 1) ∧
            (host.config.noRecursion → moment.running.length = 1)) := by
  have hunbounded := dispatch_unbounded hprograms p m
  refine ⟨hunbounded, fun hpanics => ?_⟩
  obtain ⟨hdepth, hmoments⟩ := keepsDepth_dispatchWithin hprograms nestingBound p m
    (by rwa [allCalls_singleton])
  refine ⟨hdepth hunbounded.1, fun moment hmoment => ?_⟩
  have hlevel : moment.IsLevel host m.depth.toNat := hmoments moment hmoment
  obtain ⟨frame, outer, hrunning⟩ := List.exists_cons_of_ne_nil (running_of_mem_moments hmoment)
  have hcount := hlevel.depth_eq
  have hinnermost := hlevel.stacked
  rw [hrunning] at hinnermost
  have hpermitted : host.Permits frame.depth :=
    hlevel.permitted frame (hrunning ▸ List.mem_cons_self)
  have hlength : moment.running.length = outer.length + 1 := by
    rw [hrunning, List.length_cons]
  have hframe : frame.depth.toNat = m.depth.toNat + outer.length := hinnermost.1
  refine ⟨⟨frame, outer, hrunning, by omega⟩, fun frame' h => (hlevel.permitted frame' h).1,
    hcount, fun hzero => ?_, fun hconfig => ?_⟩
  · -- the innermost frame is the deepest one
    have hdeepest := UInt64.le_iff_toNat_le.1 hpermitted.1
    omega
  · have hzero : frame.depth.toNat = 0 := congrArg UInt64.toNat (hpermitted.2 hconfig)
    omega

end

end Host

/-- Every account calls itself, without end. -/
def Interpreter.recursing : Interpreter := fun frame _ =>
  .ask (.dispatch (.call frame.account frame.account [] 5 0)) fun _ =>
    .done { result := .ok [], gasLeft := frame.gasRemaining }

namespace Host

/-- A host on which every account calls itself, and on which calls may be two deep. -/
def ofRecursing : Host where
  rules := ChainConfig.rules (.allForksActive 1) 0
  config := { maxCallDepth := 2 }
  interpreter := .recursing

theorem depth_disciplined_recursing :
    (ofRecursing.dispatch (.call 1 9 [] 10 0) withCode).2.depth = 0 ∧
      (ofRecursing.moments (.call 1 9 [] 10 0) withCode).map (·.running.length) =
        [1, 2, 3, 3, 2, 1] ∧
      ∀ moment ∈ ofRecursing.moments (.call 1 9 [] 10 0) withCode, moment.running.length ≤ 3 := by
  have hprograms : ofRecursing.interpreter.Only Query.SparesDepth :=
    fun _ _ => ⟨trivial, fun _ => trivial⟩
  have hpanics : ∀ call ∈ (ofRecursing.callTree (.call 1 9 [] 10 0) withCode).calls,
      ¬call.HasPanicked := by
    decide +kernel
  obtain ⟨hdepth, hmoments⟩ :=
    (ofRecursing.depth_disciplined hprograms (.call 1 9 [] 10 0) withCode).2 hpanics
  refine ⟨hdepth, by decide +kernel, fun moment hmoment => ?_⟩
  obtain ⟨-, -, -, hlength, -⟩ := hmoments moment hmoment
  exact hlength rfl

end Host

end CallWatch
