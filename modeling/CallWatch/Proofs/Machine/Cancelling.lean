import CallWatch.Machine.Life
import CallWatch.Proofs.Machine.Creating
import CallWatch.Proofs.Machine.Similar

/-!
# Cancelled machines

A machine that was cancelled stays cancelled, and starts no program any more
(`Host.cancelled_for_good`).

The first half is about moments.  If the machine is cancelled at one moment, it still is at every
later one, and the frames that are running then were running before (`Moment.Bars`).  `Sealed` says
so of the moments between two machines and of the machines themselves.  It composes, and it is
carried from single steps to programs, frames, primitives and transactions, and from there to whole
lives of machines (`Host.sealed_live`).

The second half is about single primitives.  Those that get a frame with a program to run
(`Host.StartsProgram`, `Host.momentsWithin_ne_nil_iff`) are settled as failures at once on a
cancelled machine.  All others come to the same end as without cancelling: whether the machine is
cancelled is only asked where a program would start, so a machine and the same machine cancelled
take the same course up to there and from there on (`Host.Cancels`).
-/

namespace CallWatch

open Run

/-! ### Moments -/

section

variable {φ : Type}

/-- If the machine is cancelled at the earlier moment, it still is at the later one, and the frames
that are running then are among those that were running already. -/
def Moment.Bars (earlier later : Moment φ) : Prop :=
  earlier.machine.isCancelled → later.machine.isCancelled ∧ later.running <:+ earlier.running

namespace Moment.Bars

variable {a b c : Moment φ}

theorem trans (h : a.Bars b) (h' : b.Bars c) : a.Bars c := by
  intro ha
  obtain ⟨hb, hrunning⟩ := h ha
  obtain ⟨hc, hrunning'⟩ := h' hb
  exact ⟨hc, hrunning'.trans hrunning⟩

/-- Outside of all frames nothing is running. -/
theorem outside {m : Machine φ} (h : a.machine.isCancelled → m.isCancelled) :
    a.Bars (.outside m) :=
  fun ha => ⟨h ha, List.nil_suffix⟩

theorem inside (h : a.Bars b) (frame : Frame) : (a.inside frame).Bars (b.inside frame) := by
  intro ha
  obtain ⟨hb, ended, hrunning⟩ := h ha
  refine ⟨hb, ended, ?_⟩
  show ended ++ (b.running ++ [frame]) = a.running ++ [frame]
  rw [← List.append_assoc, hrunning]

end Moment.Bars

/-- Once the machine is cancelled it stays cancelled and no program is started, between two machines
with these moments in between. -/
structure Sealed (moments : List (Moment φ)) (m m' : Machine φ) : Prop where
  within : moments.Pairwise Moment.Bars
  first : ∀ moment ∈ moments, (Moment.outside m).Bars moment
  last : ∀ moment ∈ moments, moment.Bars (.outside m')
  whole : (Moment.outside m).Bars (.outside m')

namespace Sealed

variable {moments : List (Moment φ)} {m m' : Machine φ}

theorem of_flag (h : m.isCancelled → m'.isCancelled) : Sealed [] m m' where
  within := .nil
  first := List.forall_mem_nil _
  last := List.forall_mem_nil _
  whole := .outside h

instance : Accumulates (Sealed (φ := φ)) where
  refl _ := .of_flag id
  trans h h' := {
    within := List.pairwise_append.2
      ⟨h.within, h'.within, fun a ha b hb => (h.last a ha).trans (h'.first b hb)⟩
    first := List.forall_mem_append.2 ⟨h.first, fun b hb => h.whole.trans (h'.first b hb)⟩
    last := List.forall_mem_append.2 ⟨fun a ha => (h.last a ha).trans h'.whole, h'.last⟩
    whole := h.whole.trans h'.whole }

theorem outside (m : Machine φ) : Sealed [.outside m] m m where
  within := List.pairwise_singleton _ _
  first := List.forall_mem_singleton.2 (.outside id)
  last := List.forall_mem_singleton.2 (.outside id)
  whole := .outside id

/-- The moments of a program are moments of its frame, which is only there if the machine was not
cancelled. -/
theorem inside (h : Sealed moments m m') (hm : ¬m.isCancelled) (frame : Frame) :
    Sealed (moments.map (·.inside frame)) m m' where
  within := List.pairwise_map.2 (h.within.imp fun hbars => hbars.inside frame)
  first _ _ hcancelled := (hm hcancelled).elim
  last := List.forall_mem_map.2 fun moment hmoment =>
    .outside fun hcancelled => (h.last moment hmoment hcancelled).1
  whole := h.whole

theorem bind {α β : Type} {x : Run φ α} {f : α → Run φ β}
    {next : α → Machine φ → List (Moment φ)} (hx : Sealed moments m (x m).2)
    (hf : ∀ a m', Sealed (next a m') m' (f a m').2) :
    Sealed (moments ++ Host.momentsAfter x next m) m ((x >>= f) m).2 := by
  rw [bind_apply, Host.momentsAfter]
  rcases hxm : x m with ⟨stop | a, m₁⟩
  all_goals rw [hxm] at hx
  · rw [List.append_nil]
    exact hx
  · exact Accumulates.trans hx (hf a m₁)

end Sealed

end

namespace Machine

variable {φ : Type} {m : Machine φ}

/-- The machine, cancelled. -/
def cancelled (m : Machine φ) : Machine φ :=
  { m with isCancelled := true }

theorem cancelled_of_isCancelled (h : m.isCancelled) : m.cancelled = m := by
  rw [cancelled, ← h]

end Machine

namespace Host

section

variable {φ : Type} [FaultModel φ] {host : Host}

/-! ### Machines that differ in being cancelled -/

/-- The second machine is the first one, cancelled. -/
def Cancels (m m' : Machine φ) : Prop :=
  m' = m.cancelled

omit [FaultModel φ] in
instance : Sees (Cancels (φ := φ)) where
  store_eq h := by rw [h]; rfl
  depth_eq h := by rw [h]; rfl
  withStore h store := by rw [h]; rfl
  withDepth h depth := by rw [h]; rfl
  enter h event := by rw [h]; rfl

omit [FaultModel φ] in
theorem similar_cancels_flagThrow :
    Similar (Cancels (φ := φ)) host.flagThrow host.flagThrow := by
  unfold flagThrow tell
  cases host.env.txHash with
  | none => exact .pure ()
  | some hash =>
    rintro m _ rfl
    exact ⟨rfl, rfl⟩

/-- **Frames are settled as without cancelling.** -/
theorem similar_cancels_settle (p : Primitive) (mark : Nat) (frame : Frame) (ended : FrameEnd) :
    Similar (Cancels (φ := φ)) (host.settle p mark frame ended) (host.settle p mark frame ended) :=
  similar_settle similar_cancels_flagThrow rfl p mark frame ended

omit [FaultModel φ] in
/-- What comes to the same end on a cancelled machine leaves it cancelled. -/
theorem keeps_sealed_of_similar {α : Type} {x : Run φ α} (hx : Similar Cancels x x) :
    Keeps (Sealed []) x := by
  refine fun m => .of_flag fun hm => ?_
  have hsame : Cancels m m := (Machine.cancelled_of_isCancelled hm).symm
  rw [(hx m m hsame).2]
  rfl

/-! ### Frames of a cancelled machine -/

/-- The frame has a program to run: it has code, and there is no built-in contract in its place. -/
def HasProgram (host : Host) (frame : Frame) : Prop :=
  host.precompiles[frame.codeAddress]? = none ∧ frame.code ≠ []

instance (frame : Frame) : Decidable (host.HasProgram frame) :=
  inferInstanceAs (Decidable (_ ∧ _))

/-- **No program is started on a cancelled machine.** -/
theorem runFrame_of_hasProgram {frame : Frame} (hframe : host.HasProgram frame) {m : Machine φ}
    (hm : m.isCancelled) (nested : Primitive → Run φ Outcome) (input : Bytes) :
    host.runFrame nested frame input m =
      (.ok { result := .error (.halt .cancelled), gasLeft := frame.gasRemaining }, m) := by
  obtain ⟨hprecompile, hcode⟩ := hframe
  have hfull : ¬frame.code.isEmpty = true := fun h => hcode (List.isEmpty_iff.1 h)
  rw [runFrame, hprecompile]
  simp only [if_neg hfull, bind_of_ok (get_apply m), if_pos hm]
  rfl

/-- A frame without a program ends in the same way on every machine. -/
theorem runFrame_of_not_hasProgram {frame : Frame} (hframe : ¬host.HasProgram frame)
    (nested : Primitive → Run φ Outcome) (input : Bytes) :
    ∃ ended, ∀ m, host.runFrame nested frame input m = (.ok ended, m) := by
  unfold runFrame
  cases hprecompile : host.precompiles[frame.codeAddress]? with
  | some precompile => exact ⟨_, fun m => rfl⟩
  | none =>
    have hempty : frame.code.isEmpty = true := by
      by_contra hfull
      exact hframe ⟨hprecompile, fun h => hfull (List.isEmpty_iff.2 h)⟩
    simp only [if_pos hempty]
    exact ⟨_, fun m => rfl⟩

theorem snd_runFrame_of_isCancelled {m : Machine φ} (hm : m.isCancelled)
    (nested : Primitive → Run φ Outcome) (frame : Frame) (input : Bytes) :
    (host.runFrame nested frame input m).2 = m := by
  by_cases hframe : host.HasProgram frame
  · rw [runFrame_of_hasProgram hframe hm]
  · obtain ⟨ended, hends⟩ := runFrame_of_not_hasProgram hframe nested input
    rw [hends]

/-- A program has control at least once. -/
theorem runMoments_ne_nil (nested : Primitive → Run φ Outcome)
    (inner : Primitive → Machine φ → List (Moment φ)) {α : Type} (program : Program α)
    (m : Machine φ) : host.runMoments nested inner program m ≠ [] := by
  induction program generalizing m with
  | done value => exact List.cons_ne_nil _ _
  | panic message => exact List.cons_ne_nil _ _
  | ask query next => exact List.cons_ne_nil _ _
  | guarded body next ihBody => exact List.append_ne_nil_of_left_ne_nil (ihBody m) _

/-- **When the program of a frame gets control**: if the frame has one, the machine is not cancelled
and the depth can be counted up. -/
theorem frameMoments_ne_nil_iff (nested : Primitive → Run φ Outcome)
    (inner : Primitive → Machine φ → List (Moment φ)) (frame : Frame) (input : Bytes)
    (m : Machine φ) :
    host.frameMoments nested inner frame input m ≠ [] ↔
      host.HasProgram frame ∧ ¬m.isCancelled ∧ (Checked.add m.depth 1).isSome := by
  unfold frameMoments HasProgram
  cases host.precompiles[frame.codeAddress]? with
  | some precompile => simp only [ne_eq, not_true_eq_false, reduceCtorEq, false_and]
  | none =>
    dsimp only
    split_ifs with hempty hcancelled
    · simp only [List.isEmpty_iff.1 hempty, ne_eq, not_true_eq_false, and_false, false_and]
    · simp only [hcancelled, ne_eq, not_true_eq_false, false_and, and_false]
    · have hcode : frame.code ≠ [] := fun h => hempty (List.isEmpty_iff.2 h)
      cases Checked.add m.depth 1 with
      | none =>
        simp only [Option.isSome_none, Bool.false_eq_true, and_false, ne_eq, not_true_eq_false]
      | some depth =>
        have hmoments : (host.runMoments nested inner (host.interpreter frame input)
            { m with depth }).map (·.inside frame) ≠ [] :=
          mt List.map_eq_nil_iff.1 (runMoments_ne_nil _ _ _ _)
        exact iff_of_true hmoments ⟨⟨rfl, hcode⟩, hcancelled, rfl⟩

/-! ### Runs -/

theorem keeps_sealed_watchdog (kind : WatchKind) (op : WatchOp) :
    Keeps (φ := φ) (Sealed []) (watchdog kind op) := by
  intro m
  obtain ⟨balance, store, hop⟩ := watchdog_apply kind op m
  rw [hop]
  exact .of_flag id

theorem keeps_sealed_store (op : StoreOp) : Keeps (φ := φ) (Sealed []) (store op) :=
  .store fun _ => .of_flag id

theorem keeps_sealed_reply (host : Host) (nested : Primitive → Run φ Outcome) {q : Query}
    (hd : ∀ p, q ≠ .dispatch p) : Keeps (Sealed []) (host.reply nested q) := by
  have htell (change : Word → Watchdog → Watchdog) :
      Keeps (φ := φ) (Sealed []) (host.tell change) :=
    Respects.keeps_tell fun _ _ _ => .of_flag id
  cases q with
  | dispatch p => exact (hd p rfl).elim
  | storeWord a key value =>
    refine .attempt (.bind (keeps_sealed_store _) fun current => ?_)
    exact .bind (htell _) fun _ => keeps_sealed_store _
  | loadWord a key => exact .attempt (keeps_sealed_store _)
  | trace line => exact htell _
  | store op => exact .ask fun _ => .of_flag id
  | blockHash => exact .pure _
  | isCancelled | depth | remembered => exact .bind .get fun _ => .pure _
  | cancel => exact .modify fun _ => .of_flag fun _ => rfl
  | setDepth | setTracing | note | remember => exact .modify fun _ => .of_flag id

theorem sealed_guarded {α : Type} {x : Run φ α} {moments : List (Moment φ)} {m : Machine φ}
    (hx : Sealed moments m (x m).2) : Sealed moments m (guarded x m).2 := by
  refine Accumulates.guarded hx (fun {m₁} h => ?_) fun _ _ => .of_flag id
  have hback := Accumulates.trans h (keeps_sealed_store (.revert m.store.ledger.snapshot) m₁)
  rwa [List.append_nil] at hback

section

variable (host) {nested : Primitive → Run φ Outcome}
  {inner : Primitive → Machine φ → List (Moment φ)}
  (hnested : ∀ p m, Sealed (inner p m) m (nested p m).2)

include hnested

theorem sealed_reply (q : Query) (m : Machine φ) :
    Sealed (replyMoments inner q m) m (host.reply nested q m).2 := by
  by_cases hd : ∃ p, q = .dispatch p
  · obtain ⟨p, rfl⟩ := hd
    rw [show (host.reply nested (.dispatch p) m).2 = _ from snd_attempt (nested p) m]
    exact hnested p m
  · have hreply := host.keeps_sealed_reply nested (fun p hp => hd ⟨p, hp⟩) m
    cases q with
    | dispatch p => exact (hd ⟨p, rfl⟩).elim
    | _ => exact hreply

theorem sealed_run {α : Type} (program : Program α) (m : Machine φ) :
    Sealed (host.runMoments nested inner program m) m (host.run nested program m).2 := by
  induction program generalizing m with
  | done value => exact .outside m
  | panic message => exact .outside m
  | ask query next ih =>
    have hrest := Sealed.bind (host.sealed_reply hnested query m) ih
    exact Accumulates.trans (.outside m) hrest
  | guarded body next ihBody ihNext =>
    refine .bind ?_ ihNext
    rw [snd_attempt]
    exact sealed_guarded (Accumulates.keeps_after (ihBody m) fun ended => .ofExcept ended)

theorem sealed_runFrame (frame : Frame) (input : Bytes) (m : Machine φ) :
    Sealed (host.frameMoments nested inner frame input m) m
      (host.runFrame nested frame input m).2 := by
  by_cases hm : m.isCancelled = true
  · have hsilent : host.frameMoments nested inner frame input m = [] := by
      by_contra hmoments
      exact ((host.frameMoments_ne_nil_iff nested inner frame input m).1 hmoments).2.1 hm
    rw [snd_runFrame_of_isCancelled hm, hsilent]
    exact Accumulates.refl m
  rcases host.runFrame_cases frame input m with ⟨ended, hends⟩ | ⟨-, depth, -, hstarts⟩
  · obtain ⟨hrun, -, hmoments⟩ := hends nested
    rw [hrun, hmoments]
    exact Accumulates.refl m
  · obtain ⟨hrun, -, hmoments⟩ := hstarts nested
    rw [hrun, hmoments]
    have hprogram := host.sealed_run hnested (host.interpreter frame input) { m with depth }
    have hinside := hprogram.inside hm frame
    -- around the program only the depth changes
    have hdepth (m : Machine φ) (depth : UInt64) : Sealed [] m { m with depth } := .of_flag id
    exact Accumulates.trans (hdepth m depth) (Accumulates.keeps_after hinside (keeps_leave hdepth))

theorem sealed_primitive (p : Primitive) (m : Machine φ) :
    Sealed (host.primitiveMoments nested inner p m) m (host.primitive nested p m).2 := by
  have hsetUp := keeps_sealed_of_similar (host.similar_setUp p) m
  unfold primitiveMoments primitive
  rw [bind_apply]
  rcases hs : host.setUp p m with ⟨stop | outcome | ⟨mark, frame⟩, m₁⟩
  all_goals rw [hs] at hsetUp
  · exact hsetUp
  · exact hsetUp
  · have hframe := host.sealed_runFrame hnested frame frame.calldata m₁
    refine Accumulates.trans hsetUp (Accumulates.keeps_after hframe fun ended => ?_)
    exact keeps_sealed_of_similar (similar_cancels_settle p mark frame ended)

end

/-- **Whatever a primitive does, cancelling bars new programs in it.** -/
theorem sealed_dispatchWithin (host : Host) (bound : Nat) (p : Primitive) (m : Machine φ) :
    Sealed (host.momentsWithin bound p m) m (host.dispatchWithin bound p m).2 := by
  -- what is nested in a primitive runs within a smaller bound
  induction bound generalizing p m with
  | zero => exact Accumulates.refl m
  | succ bound ih => exact host.sealed_primitive ih p m

theorem sealed_runRoot (host : Host) (tx : Transaction) (m : Machine φ) :
    Sealed (host.rootMoments tx m) m (host.runRoot tx m).2 := by
  have hguarded (p : Primitive) (m : Machine φ) :=
    sealed_guarded (host.sealed_dispatchWithin nestingBound p m)
  unfold runRoot rootMoments
  cases tx.kind with
  | create => exact hguarded _ m
  | call target =>
    refine .bind (keeps_sealed_store _ m) fun nonce m₁ => ?_
    cases Checked.add nonce 1 with
    | none => exact Accumulates.refl m₁
    | some next => exact .bind (keeps_sealed_store _ m₁) fun _ m₂ => hguarded _ m₂

theorem sealed_execute (host : Host) (tx : Transaction) (m : Machine φ) :
    Sealed (host.executeMoments tx m) m (host.execute tx m).2 := by
  unfold execute executeMoments
  split
  · have harm := keeps_arm keeps_sealed_watchdog tx m
    refine .bind harm fun _ m₁ => ?_
    have hroot := host.sealed_runRoot tx m₁
    rw [← snd_attempt] at hroot
    refine Accumulates.keeps_after hroot fun answer => ?_
    cases answer with
    | error failure => exact keeps_abandon keeps_sealed_watchdog tx failure
    | ok outcome => exact keeps_conclude keeps_sealed_watchdog tx outcome
  · exact Accumulates.refl m

theorem sealed_carryOut (host : Host) (errand : Errand) (m : Machine φ) :
    Sealed (host.errandMoments errand m) m (host.carryOut errand m) := by
  cases errand with
  | serve program => exact host.sealed_run (host.sealed_dispatchWithin nestingBound) program m
  | execute tx => exact host.sealed_execute tx m

/-- **In the life of a machine, cancelling bars new programs.** -/
theorem sealed_live (host : Host) (errands : List Errand) (m : Machine φ) :
    Sealed (host.lifeMoments errands m) m (host.live errands m) := by
  induction errands generalizing m with
  | nil => exact .outside m
  | cons errand rest ih =>
    have hrest := Accumulates.trans (host.sealed_carryOut errand m) (ih (host.carryOut errand m))
    exact Accumulates.trans (.outside m) hrest

/-! ### Primitives of a cancelled machine -/

/-- The primitive gets a frame that has a program to run. -/
def StartsProgram (host : Host) (p : Primitive) (m : Machine φ) : Prop :=
  match (host.setUp p m).1 with
  | .ok (.ready _ frame) => host.HasProgram frame
  | .ok (.over _) | .error _ => False

instance (p : Primitive) (m : Machine φ) : Decidable (host.StartsProgram p m) := by
  unfold StartsProgram
  split <;> infer_instance

omit [FaultModel φ] in
theorem eq_of_similar_cancels {α : Type} {x : Run φ α} (hx : Similar Cancels x x) {m m' : Machine φ}
    {ended : Except Stop α} (h : x m = (ended, m')) : x m.cancelled = (ended, m'.cancelled) := by
  obtain ⟨hanswer, hafter⟩ := hx m m.cancelled rfl
  rw [h] at hanswer hafter
  exact Prod.ext hanswer hafter

/-- **A primitive that starts no program comes to the same end** on a cancelled machine. -/
theorem primitive_cancelled_of_not_startsProgram {p : Primitive} {m : Machine φ}
    (hp : ¬host.StartsProgram p m) (nested : Primitive → Run φ Outcome) :
    host.primitive nested p m.cancelled =
      ((host.primitive nested p m).1, (host.primitive nested p m).2.cancelled) := by
  unfold primitive
  rw [bind_apply, bind_apply]
  rcases hs : host.setUp p m with ⟨ended, entered⟩
  rw [eq_of_similar_cancels (host.similar_setUp p) hs]
  match ended with
  | .error stop | .ok (.over outcome) => rfl
  | .ok (.ready mark frame) =>
    have hframe : ¬host.HasProgram frame := by rwa [StartsProgram, hs] at hp
    obtain ⟨ended, hends⟩ := runFrame_of_not_hasProgram (φ := φ) hframe nested frame.calldata
    dsimp only
    rw [bind_of_ok (hends entered), bind_of_ok (hends entered.cancelled)]
    exact eq_of_similar_cancels (similar_cancels_settle p mark frame ended) rfl

/-- When a program gets control in a primitive. -/
theorem momentsWithin_ne_nil_iff (bound : Nat) (p : Primitive) (m : Machine φ) :
    host.momentsWithin (bound + 1) p m ≠ [] ↔
      host.StartsProgram p m ∧ ¬m.isCancelled ∧ (Checked.add m.depth 1).isSome := by
  unfold momentsWithin primitiveMoments StartsProgram
  rcases hs : host.setUp p m with ⟨stop | outcome | ⟨mark, frame⟩, entered⟩
  · simp only [ne_eq, not_true_eq_false, false_and]
  · simp only [ne_eq, not_true_eq_false, false_and]
  · -- the setup leaves the flag and the depth alone
    have hapart : SameApart m entered := (keeps_sameApart_setUp p).rel_of_eq hs
    dsimp only
    rw [frameMoments_ne_nil_iff, hapart]

end

section

variable {host : Host} {m : Machine NoFaults} {l : Ledger}

/-- A call whose frame failed is back at its mark, and the failure is its outcome. -/
theorem ends_settleCall (hl : l.Precedes m.store.ledger) (frame : Frame) {ended : FrameEnd}
    {failure : Failure} (hended : ended.result = .error failure)
    (hgoesOn : failure.propagates = false) :
    (host.settleCall l.snapshot frame ended).Ends m (.ok (.reverted failure 0)) l := by
  have hback := rollBack_eq FaultModel.noFaults_sparesReverts hl frame failure
  rw [Run.Ends, settleCall, hended]
  dsimp only
  rw [hgoesOn, if_neg Bool.false_ne_true, bind_of_ok hback]
  unfold flagThrow tell
  cases host.env.txHash <;> exact ⟨rfl, rfl⟩

/-- **A primitive whose frame failed loses its gas** and is back at its mark, unless the failure
stops the machine or is that of a creation that is not paid for. -/
theorem ends_settle_of_failed (hl : l.Precedes m.store.ledger) (p : Primitive) (frame : Frame)
    {ended : FrameEnd} {failure : Failure} (hended : ended.result = .error failure)
    (hgoesOn : failure.propagates = false) (hkind : failure ≠ .codeStoreOutOfGas) :
    ∃ created, (host.settle p l.snapshot frame ended).Ends m
      (.ok { result := .reverted failure, gasLeft := 0, created }) l := by
  cases p with
  | create =>
    have hundone := host.creationUndone_settle hl frame ended
    exact ⟨_, hundone.failed failure hended hgoesOn hkind⟩
  | call | callCode | delegateCall => exact ⟨none, ends_settleCall hl frame hended hgoesOn⟩

/-- **A primitive with a program to start fails at once** on a cancelled machine. -/
theorem primitive_cancelled_of_startsProgram (hooks : host.env.IsTame) {p : Primitive}
    (hp : host.StartsProgram p m) (nested : Primitive → Run NoFaults Outcome) :
    ∃ created account l, p.Takes m.store.ledger account l ∧
      (host.primitive nested p).Ends m.cancelled
        (.ok { result := .reverted (.halt .cancelled), gasLeft := 0, created }) l := by
  rw [StartsProgram] at hp
  rcases hs : host.setUp p m with ⟨stop | outcome | ⟨mark, frame⟩, entered⟩
  all_goals rw [hs] at hp
  · exact hp.elim
  · exact hp.elim
  have hframe : host.HasProgram frame := hp
  obtain ⟨l, htakes, rfl, hforward⟩ := marked_of_ready hooks hs
  -- the setup ends alike, the frame fails at once, and settling it goes back to what was marked
  let ended : FrameEnd := { result := .error (.halt .cancelled), gasLeft := frame.gasRemaining }
  have hsetUp := eq_of_similar_cancels (host.similar_setUp p) hs
  have hrun : host.runFrame nested frame frame.calldata entered.cancelled =
      (.ok ended, entered.cancelled) :=
    runFrame_of_hasProgram hframe rfl nested frame.calldata
  have hback : l.Precedes entered.cancelled.store.ledger := hforward
  have hended : ended.result = .error (.halt .cancelled) := rfl
  obtain ⟨created, hends⟩ := ends_settle_of_failed hback p frame hended rfl nofun
  refine ⟨created, frame.account, l, htakes, ?_⟩
  rw [Run.Ends, primitive, bind_of_ok hsetUp]
  dsimp only
  rw [bind_of_ok hrun]
  exact hends

/-! ### The main statement -/

/-- What becomes of a primitive because the machine is cancelled, if primitives may nest this deep
in it. -/
structure CutsShort (host : Host) (bound : Nat) (p : Primitive) (m : Machine NoFaults) : Prop where
  /-- To start a program means that one gets control, unless the machine is cancelled already or is
  as deep as can be counted. -/
  starts : host.momentsWithin (bound + 1) p m ≠ [] ↔
    host.StartsProgram p m ∧ ¬m.isCancelled ∧ (Checked.add m.depth 1).isSome
  /-- On the cancelled machine none does. -/
  silent : host.momentsWithin (bound + 1) p m.cancelled = []
  /-- If it would start a program, it fails for having been cancelled and loses its gas.  It leaves
  the ledger with which it went on once it had taken its account, which is the one from before; if
  it is a creation, the nonce of its caller is raised. -/
  halted : host.StartsProgram p m → ∃ created account l, p.Takes m.store.ledger account l ∧
    (host.dispatchWithin (bound + 1) p).Ends m.cancelled
      (.ok { result := .reverted (.halt .cancelled), gasLeft := 0, output := [], created }) l
  /-- If it would not, it comes to the same end and does the same to the machine. -/
  alike : ¬host.StartsProgram p m →
    host.dispatchWithin (bound + 1) p m.cancelled =
      ((host.dispatchWithin (bound + 1) p m).1, (host.dispatchWithin (bound + 1) p m).2.cancelled)

/-- **Cancelling stops new frames for good.**  Take all moments in the life of a machine, whatever
it is asked for, and any one of them at which it is cancelled: by a program of a frame that is
running, by a client, or from the start.  At every later moment it still is, and of all frames only
such are running as were running then; so no program is started any more, in no primitive and at no
depth.  And whatever primitive is dispatched on a cancelled machine, it is cut short if it would
have started a program, and comes to the same end as without cancelling if not. -/
theorem cancelled_for_good (hooks : host.env.IsTame) :
    (∀ {φ : Type} [FaultModel φ] (errands : List Errand) (m : Machine φ),
        (host.lifeMoments errands m).Pairwise Moment.Bars) ∧
      ∀ (bound : Nat) (p : Primitive) (m : Machine NoFaults), host.CutsShort bound p m := by
  refine ⟨fun errands m => (host.sealed_live errands m).within, fun bound p m => ?_⟩
  exact {
    starts := momentsWithin_ne_nil_iff bound p m
    silent := by
      by_contra hmoments
      exact ((momentsWithin_ne_nil_iff bound p m.cancelled).1 hmoments).2.1 rfl
    halted := fun hp => primitive_cancelled_of_startsProgram hooks hp (host.dispatchWithin bound)
    alike := fun hp => primitive_cancelled_of_not_startsProgram hp (host.dispatchWithin bound) }

end

end Host

/-- Account 9 cancels the machine and calls account 8, all other accounts are done at once. -/
def Interpreter.quitting : Interpreter := fun frame _ =>
  let done : Program FrameEnd := .done { result := .ok [], gasLeft := frame.gasRemaining }
  if frame.account = 9 then
    .ask .cancel fun _ => .ask (.dispatch (.call 9 8 [] 5 0)) fun _ => done
  else done

namespace Host

/-- A host on which account 9 cancels the machine. -/
def ofQuitting : Host where
  rules := ChainConfig.rules (.allForksActive 1) 0
  interpreter := .quitting

/-- Account 9 is called twice.  Its program runs once and goes on after it has cancelled the
machine; that of account 8, which it calls then, never runs. -/
theorem cancelled_for_good_quitting :
    let moments := ofQuitting.lifeMoments [.serve callNine, .serve callNine] withCode
    moments.map (fun moment => (moment.running.length, moment.machine.isCancelled)) =
        [(0, false), (0, false), (1, false), (1, true), (1, true), (0, true),
          (0, true), (0, true), (0, true), (0, true)] ∧
      moments.Pairwise Moment.Bars ∧
      ofQuitting.StartsProgram (.call 9 8 [] 5 0) withCode ∧
      ∃ created, (ofQuitting.dispatchWithin 2 (.call 9 8 [] 5 0)).Ends withCode.cancelled
        (.ok { result := .reverted (.halt .cancelled), gasLeft := 0, output := [], created })
        withCode.store.ledger := by
  intro moments
  have hstarts : ofQuitting.StartsProgram (.call 9 8 [] 5 0) withCode := by decide +kernel
  obtain ⟨hlife, hcut⟩ := ofQuitting.cancelled_for_good (Environment.isTame_of_default rfl rfl)
  obtain ⟨created, account, l, htakes, hends⟩ := (hcut 1 (.call 9 8 [] 5 0) withCode).halted hstarts
  refine ⟨by decide +kernel, hlife _ _, hstarts, created, ?_⟩
  cases htakes
  exact hends

end Host

end CallWatch
