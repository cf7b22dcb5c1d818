import CallWatch.Proofs.Machine.Concluding
import CallWatch.Proofs.Machine.Logging
import CallWatch.Proofs.Machine.Metering
import CallWatch.Proofs.Machine.Reporting
import CallWatch.Proofs.Machine.Steadiness

/-!
# The throw flag and the call log

Two things tell of a frame that failed: the watchdogs are flagged, and the closing event of the
frame in the call log has an error.  They do not go together step by step.  A failure of the store
or of the machine itself closes its frame with an error but flags nothing, as the whole transaction
is to fail with it, and only then it is flagged.

So wherever the flag is raised during a run, an error was entered in the log, and where an error was
entered, the flag was raised or a primitive has no outcome (`Host.Agrees`).  If programs pass on
the failures of the primitives in them (`CallTree.PassesOn`), one primitive without an outcome is
enough for the root to be without one (`Host.isSome_failure?_of_mem`), and then the transaction is
flagged after all.  Together this is `Host.execute_hasThrow_iff`.

It takes a log that stays switched on: otherwise a frame is flagged whose error is not in the log
(`Host.execute_hasThrow_hushing`).
-/

namespace CallWatch

open CallTree Run

/-- The event closes a frame that failed. -/
def CallEvent.IsFailure : CallEvent → Prop
  | .close _ _ (some _) => True
  | .close _ _ none | .call _ _ _ _ _ _ | .callCode _ _ _ _ _ _ | .delegateCall _ _ _ _ _
  | .create _ _ _ _ _ => False

instance : DecidablePred CallEvent.IsFailure
  | .close _ _ (some _) => isTrue trivial
  | .close _ _ none | .call _ _ _ _ _ _ | .callCode _ _ _ _ _ _ | .delegateCall _ _ _ _ _
  | .create _ _ _ _ _ => isFalse id

/-- Whether a request leaves a call log on that is switched on. -/
def Query.KeepsTracing : Query → Prop
  | .setTracing isActive => isActive = true
  | _ => True

namespace CallTree

/-- The failure because of which the primitive has no outcome, if there is one. -/
def failure? (call : CallTree) : Option Failure :=
  match call.answer with
  | .error (.failed failure) => some failure
  | _ => none

/-- Where a primitive has a failure and no outcome, the program that dispatched it ends with the
same failure.  A program that wrote the depth may underflow instead when it is left. -/
def PassesOn : CallTree → Prop
  | bare _ _ => True
  | framed _ _ nested ended _ => ∀ call ∈ nested, ∀ failure ∈ call.failure?,
      ended.map (·.result) = .ok (.error failure) ∨
        ended.map (·.result) = .ok (.error (.internal .underflow))

instance : DecidablePred CallTree.PassesOn
  | bare _ _ => inferInstanceAs (Decidable True)
  | framed _ _ nested ended _ =>
    inferInstanceAs (Decidable (∀ call ∈ nested, ∀ failure ∈ call.failure?,
      ended.map (·.result) = .ok (.error failure) ∨
        ended.map (·.result) = .ok (.error (.internal .underflow))))

theorem failure?_eq_some_iff {call : CallTree} {failure : Failure} :
    call.failure? = some failure ↔ call.answer = .error (.failed failure) := by
  unfold failure?
  split <;> simp_all

end CallTree

theorem Primitive.not_isFailure_opening (p : Primitive) (account : Address) (depth : UInt64) :
    ¬(p.opening account depth).IsFailure := by
  cases p <;> exact id

namespace Host

variable {φ : Type} {host : Host} {m m' m'' : Machine φ}

/-! ### What is told and what is entered -/

/-- What the watchdogs were told and what was entered in the log in between agree: if a failure was
flagged, there is an error among the entries, and if there is an error, a failure was flagged, or
else `failed` holds. -/
def Agrees (host : Host) (failed : Prop) (m m' : Machine φ) : Prop :=
  ∃ es entries, Told host es m m' ∧ m'.log = m.log.enterAll entries ∧
    (Event.throw ∈ es → ∃ e ∈ entries, e.IsFailure) ∧
    ((∃ e ∈ entries, e.IsFailure) → Event.throw ∈ es ∨ failed)

namespace Agrees

variable {failed failed' : Prop}

/-- Nothing is told, and nothing is entered. -/
theorem of_same (hpair : m'.pair = m.pair) (hlog : m'.log = m.log) : host.Agrees failed m m' :=
  ⟨[], [], hpair, hlog, nofun, nofun⟩

/-- Nothing is told, and one event is entered. -/
theorem of_entered {e : CallEvent} (hpair : m'.pair = m.pair) (hlog : m'.log = m.log.enter e)
    (he : e.IsFailure → failed) : host.Agrees failed m m' := by
  refine ⟨[], [e], hpair, hlog, nofun, ?_⟩
  rintro ⟨e', he', hfailure⟩
  rw [List.mem_singleton.1 he'] at hfailure
  exact .inr (he hfailure)

/-- A failure is flagged, and its error is entered. -/
theorem of_flagged {e : CallEvent} (htold : Told host [.throw] m m')
    (hlog : m'.log = m.log.enter e) (he : e.IsFailure) : host.Agrees failed m m' :=
  ⟨[.throw], [e], htold, hlog, fun _ => ⟨e, List.mem_singleton_self e, he⟩,
    fun _ => .inl (List.mem_singleton_self _)⟩

theorem mono (h : host.Agrees failed m m') (himp : failed → failed') :
    host.Agrees failed' m m' := by
  obtain ⟨es, entries, htold, hlog, hclosed, hflagged⟩ := h
  exact ⟨es, entries, htold, hlog, hclosed, fun he => (hflagged he).imp_right himp⟩

theorem trans (h : host.Agrees failed m m') (h' : host.Agrees failed m' m'') :
    host.Agrees failed m m'' := by
  obtain ⟨es, entries, htold, hlog, hclosed, hflagged⟩ := h
  obtain ⟨es', entries', htold', hlog', hclosed', hflagged'⟩ := h'
  refine ⟨es ++ es', entries ++ entries', Accumulates.trans htold htold', ?_, ?_, ?_⟩
  · rw [hlog', hlog, CallLog.enterAll_append]
  · intro hthrow
    rcases List.mem_append.1 hthrow with hthrow | hthrow
    · obtain ⟨e, he, hfailure⟩ := hclosed hthrow
      exact ⟨e, List.mem_append_left _ he, hfailure⟩
    · obtain ⟨e, he, hfailure⟩ := hclosed' hthrow
      exact ⟨e, List.mem_append_right _ he, hfailure⟩
  · rintro ⟨e, he, hfailure⟩
    rw [List.mem_append]
    rcases List.mem_append.1 he with he | he
    · exact (hflagged ⟨e, he, hfailure⟩).imp_left .inl
    · exact (hflagged' ⟨e, he, hfailure⟩).imp_left .inr

theorem isActive_eq (h : host.Agrees failed m m') : m'.log.isActive = m.log.isActive := by
  obtain ⟨_, entries, -, hlog, -⟩ := h
  rw [hlog, CallLog.isActive_enterAll]

end Agrees

variable [FaultModel φ]

/-! ### Settling a frame -/

/-- The computation flags a failure only if it enters its error, and enters an error without
flagging it only if it fails itself. -/
def Settles {α : Type} (host : Host) (x : Run φ α) : Prop :=
  ∀ m, host.Agrees (∃ failure, (x m).1 = .error (.failed failure)) m (x m).2

namespace Settles

variable {α β : Type} {x : Run φ α} {f : α → Run φ β}

omit [FaultModel φ] in
/-- What comes first may change the store. -/
theorem bind_of_outside (hx : Keeps SameOutside x) (hf : ∀ a, host.Settles (f a)) :
    host.Settles (x >>= f) := by
  intro m
  have hsame := hx m
  rw [bind_apply]
  rcases hxm : x m with ⟨stop | a, m₁⟩
  all_goals rw [hxm] at hsame
  · exact .of_same hsame.pair_eq hsame.log_eq
  · exact Agrees.trans (.of_same hsame.pair_eq hsame.log_eq) (hf a m₁)

/-- A rollback comes with the closing event, unless it fails itself. -/
theorem rollBack_bind {mark : Nat} {frame : Frame} {failure : Failure} {f : Unit → Run φ α}
    (h : host.Settles (enter (.close 0 frame.depth (some failure.message)) >>= f)) :
    host.Settles (rollBack mark frame failure >>= f) := by
  have hassoc : (rollBack mark frame failure >>= f) = (store (.revert mark) >>= fun _ =>
      enter (.close 0 frame.depth (some failure.message)) >>= f) := by
    funext m
    rw [rollBack, bind_apply, bind_apply, bind_apply]
    rcases store (.revert mark) m with ⟨stop | _, m₁⟩ <;> rfl
  rw [hassoc]
  exact bind_of_outside (keeps_sameOutside_store _) fun _ => h

end Settles

omit [FaultModel φ] in
/-- A frame that did not fail is closed without an error. -/
theorem settles_closing {α : Type} (gasLeft depth : UInt64) (a : α) :
    host.Settles (φ := φ) (do enter (.close gasLeft depth none); return a) :=
  fun _ => .of_entered rfl rfl False.elim

omit [FaultModel φ] in
/-- A failure that leaves its primitive is entered and not flagged. -/
theorem settles_failing {α : Type} (e : CallEvent) (failure : Failure) :
    host.Settles (φ := φ) (do enter e; fail (α := α) failure) :=
  fun _ => .of_entered rfl rfl fun _ => ⟨failure, rfl⟩

/-- A failure that becomes the outcome of its primitive is entered and flagged. -/
theorem settles_flagging {α : Type} (gasLeft depth : UInt64) (error : String) (a : α) :
    host.Settles (φ := φ) (do
      enter (.close gasLeft depth (some error))
      host.flagThrow
      return a) := by
  intro m
  let m₁ : Machine φ := { m with log := m.log.enter (.close gasLeft depth (some error)) }
  have htold : Told host [.throw] m₁ (host.flagThrow m₁).2 := follows_told.flagThrow m₁
  have hflag : host.flagThrow m₁ = (.ok (), (host.flagThrow m₁).2) ∧
      (host.flagThrow m₁).2.log = m₁.log := by
    unfold flagThrow tell
    cases host.env.txHash <;> exact ⟨rfl, rfl⟩
  show host.Agrees _ m ((host.flagThrow >>= fun _ => pure a) m₁).2
  rw [bind_of_ok hflag.1]
  exact .of_flagged htold hflag.2 trivial

theorem settles_settleCall (mark : Nat) (frame : Frame) (ended : FrameEnd) :
    host.Settles (φ := φ) (host.settleCall mark frame ended) := by
  unfold settleCall
  cases ended.result with
  | ok output => exact settles_closing _ _ _
  | error failure =>
    refine .rollBack_bind ?_
    by_cases hpropagates : failure.propagates = true
    · simp only [if_pos hpropagates]
      exact settles_failing _ failure
    · simp only [if_neg hpropagates]
      exact settles_flagging _ _ _ _

theorem settles_closeCreation (frame : Frame) (ended : FrameEnd) (failure? : Option Failure)
    (gasLeft : UInt64) :
    host.Settles (φ := φ) (host.closeCreation frame ended failure? gasLeft) := by
  cases failure? with
  | none => exact settles_closing _ _ _
  | some failure => exact settles_flagging _ _ _ _

theorem settles_concludeCreation (mark : Nat) (frame : Frame) (ended : FrameEnd) :
    host.Settles (φ := φ) (host.concludeCreation mark frame ended) := by
  refine .bind_of_outside (keeps_sameOutside_depositCode mark frame.account ended) ?_
  rintro ⟨failure?, left⟩
  by_cases hundone : host.undoesCreation ended.output failure? = true
  · simp only [if_pos hundone]
    refine .bind_of_outside (keeps_sameOutside_store _) fun _ => ?_
    exact settles_closeCreation frame ended failure? 0
  · simp only [if_neg hundone]
    exact settles_closeCreation frame ended failure? left

/-- **Settling a frame flags a failure and enters its error**, or enters the error and ends without
an outcome. -/
theorem settles_settle (p : Primitive) (mark : Nat) (frame : Frame) (ended : FrameEnd) :
    host.Settles (φ := φ) (host.settle p mark frame ended) := by
  cases p with
  | call | callCode | delegateCall => exact settles_settleCall mark frame ended
  | create caller code gas value =>
    show host.Settles (host.settleCreation mark frame ended)
    unfold settleCreation
    cases ended.result with
    | ok output => exact settles_concludeCreation mark frame ended
    | error failure =>
      by_cases hpropagates : failure.propagates = true
      · simp only [if_pos hpropagates]
        exact .rollBack_bind (settles_failing _ failure)
      · simp only [if_neg hpropagates]
        exact settles_concludeCreation mark frame ended

/-! ### Whole runs -/

/-- With a log that is switched on, the watchdogs and the log agree along these trees: there is an
error in the log that was not flagged only if a primitive in them failed without an outcome. -/
def AgreesAlong (host : Host) (calls : List CallTree) (m m' : Machine φ) : Prop :=
  m.log.isActive = true →
    host.Agrees (∃ call ∈ allCalls calls, call.failure?.isSome = true) m m'

instance : Accumulates (φ := φ) (AgreesAlong host) where
  refl _ _ := .of_same rfl rfl
  trans {calls calls' _ _ _} h h' hactive := by
    have hfirst := h hactive
    have hsecond := h' (hfirst.isActive_eq.trans hactive)
    have hmem (call : CallTree) :
        call ∈ allCalls calls ∨ call ∈ allCalls calls' ↔ call ∈ allCalls (calls ++ calls') := by
      rw [allCalls_append, List.mem_append]
    refine (hfirst.mono ?_).trans (hsecond.mono ?_)
    · exact fun ⟨call, hcall, hfailed⟩ => ⟨call, (hmem call).1 (.inl hcall), hfailed⟩
    · exact fun ⟨call, hcall, hfailed⟩ => ⟨call, (hmem call).1 (.inr hcall), hfailed⟩

omit [FaultModel φ] in
/-- Without an error that was not flagged, the trees do not matter. -/
theorem AgreesAlong.of_agrees {calls : List CallTree} (h : host.Agrees False m m') :
    host.AgreesAlong calls m m' :=
  fun _ => h.mono False.elim

/-- No reply to a request flags a failure. -/
theorem agrees_reply (nested : Primitive → Run φ Outcome) {q : Query} (hq : q.KeepsTracing)
    (hd : ∀ p, q ≠ .dispatch p) : Keeps (AgreesAlong host []) (host.reply nested q) := by
  intro m hactive
  have hfollows : host.Follows (Told (φ := φ) host) := follows_told
  have htold := hfollows.reply nested (fun _ _ => []) q hd m
  have hunflagged : Event.throw ∉ replyHistory (fun _ _ => []) q m := by
    cases q with
    | dispatch p => exact (hd p rfl).elim
    | storeWord account key value =>
      rw [replyHistory, History.andThen]
      rcases Run.loadWord account key m with ⟨stop | current, m₁⟩
      · exact List.not_mem_nil
      · exact fun h => by cases List.mem_singleton.1 h
    | trace | store => exact fun h => by cases List.mem_singleton.1 h
    | _ => exact List.not_mem_nil
  have hlog : (host.reply nested q m).2.log = m.log := by
    by_cases hswitch : ∃ isActive, q = .setTracing isActive
    · -- the log was on before
      obtain ⟨isActive, rfl⟩ := hswitch
      show { m.log with isActive } = m.log
      rw [show isActive = m.log.isActive from Eq.trans hq hactive.symm]
    · exact keeps_sameLog_reply nested hd (fun isActive h => hswitch ⟨isActive, h⟩) m
  refine ⟨_, [], htold, hlog, fun h => (hunflagged h).elim, ?_⟩
  rintro ⟨_, hin, -⟩
  cases hin

/-- Setting up a frame enters its opening event at most. -/
theorem agrees_setUp {p : Primitive} {ended : Except Stop Setup}
    (h : host.setUp p m = (ended, m')) : host.Agrees False m m' := by
  have hkeeps : Keeps (φ := φ) SamePair (host.setUp p) := keeps_samePair_setUp p
  have hpair : SamePair m m' := hkeeps.rel_of_eq h
  have hopens := host.opens_setUp p m
  rw [h] at hopens
  rcases ended with stop | outcome | ⟨mark, frame⟩
  · exact .of_same hpair hopens.log_eq
  · exact .of_same hpair hopens.log_eq
  · exact .of_entered hpair (log_of_ready h) (p.not_isFailure_opening _ _)

/-- **Every step of a run keeps the watchdogs and the log in agreement.** -/
theorem nests_agrees : host.Nests Query.KeepsTracing (AgreesAlong (φ := φ) host) := by
  refine { reply := ?reply, setDepth := ?setDepth, rewind := ?rewind, exhausted := ?exhausted
           bare := ?bare, unwound := ?unwound, settle := ?settle }
  case reply => exact fun nested q hq hd => agrees_reply nested hq hd
  case setDepth => exact fun m depth => .of_agrees (.of_same rfl rfl)
  case rewind =>
    intro calls m₀ m h hactive
    have hsame := keeps_sameOutside_store (φ := φ) (.revert m₀.store.ledger.snapshot) m
    exact (h hactive).trans (.of_same hsame.pair_eq hsame.log_eq)
  case exhausted => exact fun p m => .of_agrees (.of_same rfl rfl)
  case bare => exact fun answer hs _ => .of_agrees (agrees_setUp hs)
  case unwound =>
    intro p m m₁ m₂ mark frame calls stop hs hcalls hactive
    have hsetUp := agrees_setUp hs
    have hframe := hcalls (hsetUp.isActive_eq.trans hactive)
    refine (hsetUp.mono False.elim).trans (hframe.mono ?_)
    rintro ⟨call, hcall, hfailed⟩
    exact ⟨call, List.mem_append_left _ (List.mem_cons_of_mem _ hcall), hfailed⟩
  case settle =>
    intro p m m₁ m₂ mark frame calls ended hs hcalls hactive
    have hsetUp := agrees_setUp hs
    have hframe := hcalls (hsetUp.isActive_eq.trans hactive)
    have hsettle := host.settles_settle p mark frame ended m₂
    refine (hsetUp.mono False.elim).trans ((hframe.mono ?_).trans (hsettle.mono ?_))
    · rintro ⟨call, hcall, hfailed⟩
      exact ⟨call, List.mem_append_left _ (List.mem_cons_of_mem _ hcall), hfailed⟩
    · -- an error that was not flagged is that of the primitive itself
      rintro ⟨failure, hfailed⟩
      refine ⟨_, List.mem_append_left _ List.mem_cons_self, ?_⟩
      exact Option.isSome_of_eq_some (failure?_eq_some_iff.2 hfailed)

/-! ### Failures that are passed on -/

/-- A failure in the place of an outcome is one of the store or of the machine itself. -/
theorem propagates_dispatchWithin (bound : Nat) (p : Primitive) :
    StopsWithin (φ := φ) (fun stop => ∀ failure, stop = .failed failure →
      failure.propagates = true) (host.dispatchWithin bound p) := by
  have hfails (stop : Stop) (h : ∃ failure : Failure, failure.propagates = true ∧
      stop = .failed failure) (failure : Failure) (hstop : stop = .failed failure) :
      failure.propagates = true := by
    obtain ⟨_, hpropagates, rfl⟩ := h
    cases hstop
    exact hpropagates
  cases bound with
  | zero =>
    rintro m stop ⟨⟩
    exact nofun
  | succ bound =>
    refine .bind ((host.onlyFails_setUp p).mono hfails) fun setup => ?_
    cases setup with
    | «over» outcome => exact .pure outcome
    | ready mark frame =>
      refine .bind ((neverFails_runFrame _ frame _).mono ?_) fun ended => ?_
      · exact fun stop hno failure hstop => (hno failure hstop).elim
      · exact (host.onlyFails_settle p mark frame ended).mono hfails

/-- A frame that ends with a failure of the machine leaves its primitive without an outcome. -/
theorem exists_failure_of_runFrame {nested : Primitive → Run φ Outcome} {p : Primitive} {mark : Nat}
    {frame : Frame} {m₁ : Machine φ} (hs : host.setUp p m = (.ok (.ready mark frame), m₁))
    {failure : Failure} (hpropagates : failure.propagates = true)
    (h : (host.runFrame nested frame frame.calldata m₁).1.map (·.result) = .ok (.error failure)) :
    ∃ failure', (host.primitive nested p m).1 = .error (.failed failure') := by
  rw [primitive, bind_of_ok hs]
  dsimp only
  rw [bind_apply]
  rcases hf : host.runFrame nested frame frame.calldata m₁ with ⟨stop | ended, m₂⟩
  all_goals rw [hf] at h
  · cases h
  have hended : ended.result = .error failure := Except.ok.inj h
  dsimp only
  rcases hsettle : host.settle p mark frame ended m₂ with ⟨stop | outcome, m'⟩
  · obtain ⟨failure', -, rfl⟩ := host.onlyFails_settle p mark frame ended m₂ stop
      (congrArg Prod.fst hsettle)
    exact ⟨failure', rfl⟩
  · -- it goes back to its mark and then fails, so there is no outcome
    rw [host.settle_of_propagates p mark frame hended hpropagates, bind_eq_ok_iff] at hsettle
    obtain ⟨_, _, _, hsettle⟩ := hsettle
    cases hsettle

/-- **A failure that is passed on comes through to the top**: if a primitive in a tree failed and
has no outcome, neither has the tree. -/
theorem isSome_failure?_of_mem {bound : Nat} {p : Primitive} {m : Machine φ} {call : CallTree}
    (hpasses : ∀ call ∈ (host.treeWithin bound p m).calls, call.PassesOn)
    (hcall : call ∈ (host.treeWithin bound p m).calls) (hfailed : call.failure?.isSome = true) :
    (host.treeWithin bound p m).failure?.isSome = true := by
  induction bound generalizing p m with
  | zero => rwa [List.mem_singleton.1 hcall] at hfailed
  | succ bound ih =>
    have htree : host.treeWithin (bound + 1) p m =
      host.primitiveTree (host.dispatchWithin bound) (host.treeWithin bound) p m := rfl
    rw [htree] at hpasses hcall ⊢
    unfold primitiveTree at hpasses hcall ⊢
    rcases hs : host.setUp p m with ⟨stop | outcome | ⟨mark, frame⟩, m₁⟩
    all_goals rw [hs] at hpasses hcall
    · rwa [List.mem_singleton.1 hcall] at hfailed
    · rwa [List.mem_singleton.1 hcall] at hfailed
    dsimp only at hpasses hcall ⊢
    obtain ⟨hpass, hpasses⟩ := List.forall_mem_cons.1 hpasses
    rcases List.mem_cons.1 hcall with rfl | hcall
    · exact hfailed
    -- the primitive of the frame that the failure is in has a failure itself
    obtain ⟨child, hchild, hcall⟩ := mem_allCalls.1 hcall
    obtain ⟨p', m', rfl⟩ := exists_of_mem_frameCalls hchild
    obtain ⟨failure, hfailure⟩ := Option.isSome_iff_exists.1 <|
      ih (fun call hmem => hpasses call (mem_allCalls.2 ⟨_, hchild, hmem⟩)) hcall
    have hanswer := failure?_eq_some_iff.1 hfailure
    rw [answer_treeWithin] at hanswer
    have hpropagates : failure.propagates = true :=
      host.propagates_dispatchWithin bound p' m' _ hanswer failure rfl
    -- and the program of the frame passes it on
    obtain ⟨failure', hended⟩ : ∃ failure',
        (host.primitive (host.dispatchWithin bound) p m).1 = .error (.failed failure') := by
      rcases hpass _ hchild failure hfailure with hpassed | hunderflow
      · exact exists_failure_of_runFrame hs hpropagates hpassed
      · exact exists_failure_of_runFrame hs rfl hunderflow
    exact Option.isSome_of_eq_some (failure?_eq_some_iff.2 hended)

/-! ### Transactions -/

/-- A transaction whose run has an outcome ran one primitive, and that had the outcome. -/
theorem exists_tree_of_runRoot {tx : Transaction} {outcome : Outcome}
    (h : host.runRoot tx m = (.ok outcome, m')) :
    ∃ p, ∃ m₁ : Machine φ, host.rootCalls tx m = [host.callTree p m₁] ∧
      (host.dispatch p m₁).1 = .ok outcome := by
  unfold runRoot at h
  unfold rootCalls
  cases hkind : tx.kind with
  | create =>
    rw [hkind] at h
    exact ⟨_, m, rfl, congrArg Prod.fst (eq_ok_of_guarded h)⟩
  | call target =>
    rw [hkind] at h
    dsimp only at h ⊢
    obtain ⟨nonce, m₁, hread, h⟩ := bind_eq_ok_iff.1 h
    rw [callsAfter, hread]
    dsimp only
    cases hnext : Checked.add nonce 1 with
    | none =>
      rw [hnext] at h
      cases h
    | some next =>
      rw [hnext] at h
      obtain ⟨_, m₂, hraise, h⟩ := bind_eq_ok_iff.1 h
      dsimp only
      rw [callsAfter, hraise]
      exact ⟨_, m₂, rfl, congrArg Prod.fst (eq_ok_of_guarded h)⟩

/-- **Where a run has an outcome, a failure was flagged exactly if an error was entered.** -/
theorem agrees_runRoot (hprograms : host.interpreter.Only Query.KeepsTracing) {tx : Transaction}
    {outcome : Outcome} (h : host.runRoot tx m = (.ok outcome, m'))
    (hactive : m.log.isActive = true)
    (hpasses : ∀ call ∈ allCalls (host.rootCalls tx m), call.PassesOn) :
    host.Agrees False m m' := by
  have hstore (op : StoreOp) : Keeps (AgreesAlong (φ := φ) host []) (store op) :=
    .store fun m => .of_agrees (.of_same rfl rfl)
  have hagrees := nests_agrees.runRoot hprograms hstore tx m hactive
  rw [h] at hagrees
  refine hagrees.mono ?_
  rintro ⟨call, hcall, hfailed⟩
  -- the root would have no outcome either
  obtain ⟨p, m₁, htree, houtcome⟩ := exists_tree_of_runRoot h
  rw [htree, allCalls_singleton] at hpasses hcall
  obtain ⟨failure, hfailure⟩ :=
    Option.isSome_iff_exists.1 (isSome_failure?_of_mem hpasses hcall hfailed)
  rw [failure?_eq_some_iff, answer_treeWithin] at hfailure
  cases houtcome.symm.trans hfailure

/-- An execution has the result of its run. -/
theorem result_of_conclude {tx : Transaction} {outcome : Outcome} {execution : Execution}
    (h : conclude tx outcome m = (.ok execution, m')) : execution.result = outcome.result := by
  obtain ⟨_, m₁, -, h⟩ := bind_eq_ok_iff.1 h
  cases hused : Checked.sub tx.gasLimit outcome.gasLeft with
  | none =>
    rw [hused] at h
    cases h
  | some gasUsed =>
    rw [hused] at h
    obtain ⟨fault?, m₂, -, h⟩ := bind_eq_ok_iff.1 h
    cases fault? with
    | some fault => cases h
    | none =>
      cases h
      rfl

/-- The transaction was executed, and with success. -/
def Succeeded : Except Stop Execution → Prop
  | .ok execution => execution.result.isSuccess = true
  | .error _ => False

instance : DecidablePred Succeeded
  | .ok execution => inferInstanceAs (Decidable (execution.result.isSuccess = true))
  | .error _ => isFalse id

/-- The reports that the sink got at the end of a transaction have the throw flag exactly if it did
not succeed or the log has the closing event of a frame that failed.  There are reports, unless no
trace line was written or the transaction ended where nothing is finalized. -/
def FlagsReports (lines : List String) (outbox : Outbox)
    (ended : Except Stop Execution × Machine NoFaults) : Prop :=
  ∃ sent : List Report,
    ended.2.pair.outbox.reports = outbox.reports ++ sent ∧
      ended.2.pair.outbox = sent.foldl Outbox.send outbox ∧
      (∀ report ∈ sent, report.hasThrow = true ↔
        ¬Succeeded ended.1 ∨ ∃ e ∈ ended.2.log.events.toList, e.IsFailure) ∧
      (sent = [] → lines = [] ∨ ended.1 = .error (.failed (.internal .underflow)) ∨
        ended.1 = .error .exhausted)

/-- Reports that were handed over one after the other are those by which the outbox grew. -/
theorem FlagsReports.of_sent {lines : List String} {outbox : Outbox}
    {ended : Except Stop Execution × Machine NoFaults} (sent : List Report)
    (houtbox : ended.2.pair.outbox = sent.foldl Outbox.send outbox)
    (hthrow : ∀ report ∈ sent, report.hasThrow = true ↔
      ¬Succeeded ended.1 ∨ ∃ e ∈ ended.2.log.events.toList, e.IsFailure)
    (hnothing : sent = [] → lines = [] ∨ ended.1 = .error (.failed (.internal .underflow)) ∨
      ended.1 = .error .exhausted) : FlagsReports lines outbox ended := by
  have hreports : ended.2.pair.outbox.reports = outbox.reports ++ sent := by
    rw [houtbox, Outbox.reports_foldl_send]
  exact ⟨sent, hreports, houtbox, hthrow, hnothing⟩

section

variable {tx : Transaction} {m : Machine NoFaults}

/-- What is sent off when a session is over has its throw flag, and if nothing is, then no trace
line was written. -/
theorem exists_sent_finalized {s : Session} (h : m.pair.Holds s) {receipt : Receipt}
    (hreceipt : receipt.txHash = s.txHash) :
    ∃ sent : List Report,
      (finalized receipt m).pair.outbox = sent.foldl Outbox.send m.pair.outbox ∧
        (∀ report ∈ sent, report.hasThrow = s.hasThrow) ∧ (sent = [] → s.trace.toList = []) := by
  have houtbox : (finalized receipt m).pair.outbox = _ :=
    WatchPair.outbox_finish (fun a => (m.store.ledger.accounts.get a).balance) h hreceipt
      m.log.toJson
  by_cases hempty : s.trace.isEmpty = true
  · rw [if_pos hempty] at houtbox
    exact ⟨[], houtbox, List.forall_mem_nil _, fun _ => Array.toList_eq_nil_iff.2
      (Array.isEmpty_iff.1 hempty)⟩
  · rw [if_neg hempty] at houtbox
    refine ⟨[_, _], houtbox, ?_, nofun⟩
    simp [Session.report]

/-- Where a failure is flagged at the end, both reports have the flag. -/
theorem exists_sent_flagged {s : Session} (h : m.pair.Holds s) {receipt : Receipt}
    (hreceipt : receipt.txHash = s.txHash) :
    ∃ sent : List Report,
      (finalized receipt (flagged s.txHash m)).pair.outbox =
          sent.foldl Outbox.send m.pair.outbox ∧
        (∀ report ∈ sent, report.hasThrow = true) ∧ (sent = [] → s.trace.toList = []) := by
  obtain ⟨hflagged, hsame⟩ :=
    WatchPair.holds_flagThrow (fun a => (m.store.ledger.accounts.get a).balance) h
  obtain ⟨sent, houtbox, hsent⟩ := exists_sent_finalized (m := flagged s.txHash m) hflagged hreceipt
  rw [show (flagged s.txHash m).pair.outbox = _ from hsame] at houtbox
  exact ⟨sent, houtbox, hsent⟩

/-- A run without an outcome is flagged at the end. -/
theorem flagsReports_abandon {s : Session} (h : m.pair.Holds s) (hhash : s.txHash = tx.hash)
    (failure : Failure) :
    FlagsReports s.trace.toList m.pair.outbox (abandon tx failure m) := by
  have hreceipt : tx.failedReceipt.txHash = s.txHash := hhash.symm
  rw [abandon_eq, ← hhash]
  obtain ⟨sent, houtbox, hthrow, hnothing⟩ := exists_sent_flagged h hreceipt
  refine .of_sent sent houtbox (fun report hreport => ?_) fun hnone => .inl (hnothing hnone)
  exact iff_of_true (hthrow report hreport) (.inl id)

/-- An outcome that is no success is flagged at the end, and a success is not; then it matters what
was flagged before. -/
theorem flagsReports_conclude {s : Session} (h : m.pair.Holds s) (hhash : s.txHash = tx.hash)
    (outcome : Outcome)
    (hstory : s.hasThrow = true ↔ ∃ e ∈ m.log.events.toList, e.IsFailure) :
    FlagsReports s.trace.toList m.pair.outbox (conclude tx outcome m) := by
  by_cases hgas : tx.gasLimit < outcome.gasLeft
  · -- the gas that was used cannot be told, and nothing is finalized
    rw [conclude_of_lt hgas]
    refine .of_sent [] ?_ (List.forall_mem_nil _) fun _ => .inr (.inl rfl)
    split
    · rfl
    · exact WatchPair.outbox_both _ _
  obtain ⟨execution, hended, -, hreceipt, -⟩ := conclude_eq (UInt64.not_lt.1 hgas) m
  rw [← hhash] at hreceipt
  have hresult := result_of_conclude hended
  rw [hended]
  by_cases hsuccess : outcome.result.isSuccess = true
  · rw [if_pos hsuccess]
    obtain ⟨sent, houtbox, hthrow, hnothing⟩ := exists_sent_finalized h hreceipt
    refine .of_sent sent houtbox (fun report hreport => ?_) fun hnone => .inl (hnothing hnone)
    have hsucceeded : Succeeded (.ok execution) := by rwa [Succeeded, hresult]
    rw [hthrow report hreport, or_iff_right (not_not_intro hsucceeded)]
    exact hstory
  · rw [if_neg hsuccess, ← hhash]
    obtain ⟨sent, houtbox, hthrow, hnothing⟩ := exists_sent_flagged h hreceipt
    refine .of_sent sent houtbox (fun report hreport => ?_) fun hnone => .inl (hnothing hnone)
    have hfailed : ¬Succeeded (.ok execution) := by rwa [Succeeded, hresult]
    exact iff_of_true (hthrow report hreport) (.inl hfailed)

/-- **If nothing fails without being flagged, the flag of a session is an error in the log.** -/
theorem hasThrow_iff_of_agrees (hwatchers : host.watchers = [.general, .tracer]) {s₀ s : Session}
    (hbound : host.env.txHash = some s₀.txHash) (hnew : s₀.hasThrow = false) {m' : Machine NoFaults}
    (h : m.pair.Holds s₀) (h' : m'.pair.Holds s) (hfresh : m.log = {})
    (hagrees : host.Agrees False m m') :
    s.hasThrow = true ↔ ∃ e ∈ m'.log.events.toList, e.IsFailure := by
  obtain ⟨es, entries, htold, hlog, hclosed, hflagged⟩ := hagrees
  have hheard := holds_of_told hwatchers h hbound htold
  obtain rfl : s = s₀.hearAll 1 es :=
    Option.some.inj ((h' .general).symm.trans (hheard .general))
  have hentries : m'.log.events.toList = entries := by
    rw [hlog, hfresh]
    exact CallLog.toList_enterAll rfl entries
  rw [Session.hasThrow_hearAll, hnew, or_iff_right Bool.false_ne_true, hentries]
  exact ⟨hclosed, fun he => (hflagged he).resolve_right id⟩

/-- A primitive for which there is nothing to run leaves the watchdogs and the log alone. -/
theorem primitive_of_over {φ : Type} [FaultModel φ] {nested : Primitive → Run φ Outcome}
    {p : Primitive} {m m' : Machine φ} {outcome : Outcome}
    (h : host.setUp p m = (.ok (.over outcome), m')) :
    host.primitive nested p m = (.ok outcome, m') ∧ m'.pair = m.pair ∧ m'.log = m.log := by
  have hopens := host.opens_setUp p m
  rw [h] at hopens
  refine ⟨?_, hopens.pair_eq, hopens.log_eq⟩
  rw [primitive, bind_of_ok h]
  rfl

/-- **The throw flag and the call log tell the same story.**  A call is executed over a store that
never refuses, with a fresh log and with two watchdogs that are ready for it and told of everything.
No program switches the log off, and every program passes on the failures because of which a
primitive in it has no outcome.  Then each report that is sent off has the flag exactly if the
transaction did not succeed or the log has the closing event of a frame that failed, at whatever
depth.  A primitive that is refused or skipped neither flags anything nor enters anything. -/
theorem execute_hasThrow_iff {target : Address} (hkind : tx.kind = .call target)
    (hbound : host.env.txHash = some tx.hash) (hwatchers : host.watchers = [.general, .tracer])
    (hready : ∀ kind, (m.pair.get kind).IsReady tx.hash) (hfresh : m.log = {})
    (hprograms : host.interpreter.Only Query.KeepsTracing)
    (hpasses : ∀ call ∈ allCalls (host.executeCalls tx m), call.PassesOn) :
    FlagsReports ((host.executeHistory tx m).filterMap Event.line?) m.pair.outbox
        (host.execute tx m) ∧
      ∀ (nested : Primitive → Run NoFaults Outcome) p m₁ outcome m₂,
        host.setUp p m₁ = (.ok (.over outcome), m₂) →
          host.primitive nested p m₁ = (.ok outcome, m₂) ∧ m₂.pair = m₁.pair ∧
            m₂.log = m₁.log := by
  refine ⟨?_, fun _ _ _ _ _ hover => primitive_of_over hover⟩
  have htarget : tx.target? = some target := by rw [Transaction.target?, hkind]
  obtain ⟨m₁, harm, harmed, hunsent⟩ := exists_arm_of_isReady htarget hready
  have hfresh₁ : m₁.log = {} := by
    rw [show m₁ = _ from congrArg Prod.snd (harm.symm.trans (arm_eq tx m))]
    exact hfresh
  rw [executeCalls, callsAfter, harm] at hpasses
  rw [executeHistory_of_arm harm, execute, if_pos hbound, bind_of_ok harm]
  -- both watchdogs end the run with the same session
  obtain ⟨hheld, hsent⟩ := holds_runRoot hwatchers harmed hbound tx
  generalize hs : Session.hearAll 1 _ (host.rootHistory tx m₁) = s at hheld
  have hhash : s.txHash = tx.hash := by
    rw [← hs]
    exact Session.hearAll_induction Session.txHash_hear _ _
  have htrace : s.trace.toList = (host.rootHistory tx m₁).filterMap Event.line? := by
    rw [← hs, Session.trace_hearAll]
    rfl
  rw [← htrace, ← hunsent, ← hsent]
  rcases hrun : host.runRoot tx m₁ with ⟨(failure | message | _) | outcome, m₂⟩
  all_goals
    have hattempt := attempt_apply (host.runRoot tx) m₁
    rw [hrun] at hattempt hheld
  · rw [bind_of_ok hattempt]
    exact flagsReports_abandon hheld hhash failure
  · exact (neverPanics_runRoot tx m₁ _ (congrArg Prod.fst hrun) message rfl).elim
  · rw [bind_apply, hattempt]
    exact .of_sent [] rfl (List.forall_mem_nil _) fun _ => .inr (.inr rfl)
  · -- no failure was passed on all the way, so every error in the log was flagged
    have hagrees := agrees_runRoot hprograms hrun (by rw [hfresh₁]) hpasses
    rw [bind_of_ok hattempt]
    exact flagsReports_conclude hheld hhash outcome
      (hasThrow_iff_of_agrees hwatchers hbound rfl harmed hheld hfresh₁ hagrees)

/-- The call of account 8 fails and is not passed on as it has an outcome, so the transaction is a
success, but both reports have the flag, as the log has the error. -/
theorem execute_hasThrow_tracing :
    Succeeded (ofTracing.execute callOfNine recording).1 ∧
      (∃ e ∈ (ofTracing.execute callOfNine recording).2.log.events.toList, e.IsFailure) ∧
      ∃ sent : List Report, sent ≠ [] ∧ (∀ report ∈ sent, report.hasThrow = true) ∧
        (ofTracing.execute callOfNine recording).2.pair.outbox.reports = sent ∧
        (ofTracing.execute callOfNine recording).2.pair.outbox =
          sent.foldl Outbox.send recording.pair.outbox := by
  have hready : ∀ kind, (recording.pair.get kind).IsReady callOfNine.hash := by
    intro kind
    cases kind <;> exact ⟨rfl, rfl, by decide⟩
  have hprograms : ofTracing.interpreter.Only Query.KeepsTracing := by
    intro frame input
    show Program.Only _ (if frame.account = 9 then _ else _)
    split
    · exact ⟨trivial, fun _ => ⟨trivial, fun _ => ⟨trivial, fun _ => trivial⟩⟩⟩
    · exact ⟨trivial, fun _ => trivial⟩
  have hpasses : ∀ call ∈ allCalls (ofTracing.executeCalls callOfNine recording),
      call.PassesOn := by
    decide +kernel
  have herror : ∃ e ∈ (ofTracing.execute callOfNine recording).2.log.events.toList,
      e.IsFailure := by
    decide +kernel
  have hends : (ofTracing.execute callOfNine recording).1 ≠
      .error (.failed (.internal .underflow)) ∧
      (ofTracing.execute callOfNine recording).1 ≠ .error .exhausted := by
    decide +kernel
  have hlines : (ofTracing.executeHistory callOfNine recording).filterMap Event.line? ≠ [] := by
    decide +kernel
  obtain ⟨⟨sent, hreports, houtbox, hflag, hsent⟩, -⟩ :=
    @execute_hasThrow_iff ofTracing callOfNine recording 9 rfl rfl rfl hready rfl hprograms hpasses
  refine ⟨by decide +kernel, herror, sent, fun hnone => ?_, fun report hreport => ?_, hreports,
    houtbox⟩
  · rcases hsent hnone with h | h | h
    · exact hlines h
    · exact hends.1 h
    · exact hends.2 h
  · exact (hflag report hreport).2 (.inr herror)

/-- A host on which account 9 switches the call log off before it calls account 8, which fails. -/
def ofHushing : Host where
  env := { txHash := some 7 }
  rules := ChainConfig.rules (.allForksActive 1) 0
  interpreter := fun frame _ =>
    if frame.account = 9 then
      .ask (.trace "before") fun _ =>
        .ask (.setTracing false) fun _ =>
          .ask (.dispatch (.call 9 8 [] 5 0)) fun _ => ending
    else failing

/-- **A log that is switched off has no error to show.**  Everything else is as it has to be and the
transaction succeeds, but the failure of account 8 is flagged in both reports. -/
theorem execute_hasThrow_hushing :
    (callOfNine.kind = .call 9 ∧ ofHushing.env.txHash = some callOfNine.hash ∧
      ofHushing.watchers = [.general, .tracer] ∧
      (∀ kind, (recording.pair.get kind).IsReady callOfNine.hash) ∧ recording.log = {} ∧
      ∀ call ∈ allCalls (ofHushing.executeCalls callOfNine recording), call.PassesOn) ∧
    Succeeded (ofHushing.execute callOfNine recording).1 ∧
      (∀ e ∈ (ofHushing.execute callOfNine recording).2.log.events.toList, ¬e.IsFailure) ∧
      (ofHushing.execute callOfNine recording).2.pair.outbox.sent.toList.map (·.1.hasThrow) =
        [true, true] := by
  have hready : ∀ kind, (recording.pair.get kind).IsReady callOfNine.hash := by
    intro kind
    cases kind <;> exact ⟨rfl, rfl, by decide⟩
  refine ⟨⟨rfl, rfl, rfl, hready, rfl, ?_⟩, ?_⟩ <;> decide +kernel

end

end Host

end CallWatch
