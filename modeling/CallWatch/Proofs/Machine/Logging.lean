import CallWatch.Proofs.Machine.Balance
import CallWatch.Proofs.Machine.Nesting
import CallWatch.Proofs.Machine.Rollback

/-!
# What the call log holds

A run enters in the call log the events of the call trees of its primitives, in their order, and
nothing else (`Host.logs_dispatch`).  This holds for every way in which a primitive can end, behind
every layer of faults that spares reverts, as long as programs neither switch the log nor go back in
the store by themselves.

So what a guarded run adds to the log is balanced exactly if no frame of the run is left open
(`Host.guarded_balanced_iff`).  There are two ways to leave one open: a panic that goes through it,
which the guard catches without closing anything, and code that cannot be stored.
-/

namespace CallWatch

open Run

/-- Enters events, one after the other. -/
def CallLog.enterAll (log : CallLog) (es : List CallEvent) : CallLog :=
  es.foldl enter log

namespace CallLog

theorem enterAll_append (log : CallLog) (es es' : List CallEvent) :
    log.enterAll (es ++ es') = (log.enterAll es).enterAll es' :=
  List.foldl_append

theorem isActive_enterAll (log : CallLog) (es : List CallEvent) :
    (log.enterAll es).isActive = log.isActive := by
  have henter (log : CallLog) (e : CallEvent) : (log.enter e).isActive = log.isActive := by
    unfold enter
    split <;> rfl
  induction es generalizing log with
  | nil => rfl
  | cons e es ih => exact (ih _).trans (henter log e)

/-- A log that is switched on takes every entry. -/
theorem toList_enterAll {log : CallLog} (h : log.isActive) (es : List CallEvent) :
    (log.enterAll es).events.toList = log.events.toList ++ es := by
  induction es generalizing log with
  | nil => exact (List.append_nil _).symm
  | cons e es ih =>
    have henter : log.enter e = { log with events := log.events.push e } := if_pos h
    show ((log.enter e).enterAll es).events.toList = _
    rw [ih (by rw [henter]; exact h), henter, Array.toList_push, List.append_assoc]
    rfl

end CallLog

/-- Whether a request neither switches the call log nor goes back in the store by itself. -/
def Query.KeepsLog : Query → Prop
  | .setTracing _ | .store (.revert _) => False
  | _ => True

theorem Query.KeepsLog.goesForward {q : Query} (h : q.KeepsLog) : q.GoesForward := by
  cases q with
  | store op => cases op <;> trivial
  | _ => trivial

namespace Host

variable {φ : Type} {host : Host} {m m' : Machine φ}

/-! ### Outside of the store -/

/-- Outside of the store the machines are the same. -/
def SameOutside (m m' : Machine φ) : Prop :=
  m' = { m with store := m'.store }

instance : IsPreorder (Machine φ) SameOutside where
  refl _ := rfl
  trans m m' m'' h h' := by
    rw [SameOutside] at h h' ⊢
    rw [h', h]

theorem SameOutside.log_eq (h : SameOutside m m') : m'.log = m.log := by
  rw [h]

theorem SameOutside.pair_eq (h : SameOutside m m') : m'.pair = m.pair := by
  rw [h]

theorem SameOutside.depth_eq (h : SameOutside m m') : m'.depth = m.depth := by
  rw [h]

/-- The call log is the same. -/
def SameLog (m m' : Machine φ) : Prop :=
  m'.log = m.log

instance : IsPreorder (Machine φ) SameLog where
  refl _ := rfl
  trans _ _ _ h h' := Eq.trans h' h

variable [FaultModel φ]

theorem keeps_sameOutside_store (op : StoreOp) : Keeps (φ := φ) SameOutside (store op) :=
  .store fun _ => rfl

theorem keeps_sameOutside_enterFrame (account : Address) (p : Primitive) :
    Keeps (φ := φ) SameOutside (host.enterFrame account p) :=
  keeps_enterFrame (fun op _ => keeps_sameOutside_store op) (fun _ _ _ => .perform fun _ => rfl)
    account p

/-- A frame has the account that was taken for it and the depth at which its primitive was
dispatched. -/
theorem account_depth_of_enterFrame {account : Address} {p : Primitive} {frame : Frame}
    (h : host.enterFrame account p m = (.ok (some frame), m')) :
    frame.account = account ∧ frame.depth = m.depth := by
  have houtside := host.keeps_sameOutside_enterFrame account p m
  rw [h] at houtside
  rw [← houtside.depth_eq]
  -- the depth is read at the very end
  cases p with
  | call caller target input gas value =>
    rw [enterFrame, bind_eq_ok_iff] at h
    obtain ⟨isThere, _, _, h⟩ := h
    split at h
    · simp only [bind_eq_ok_iff, get_apply] at h
      obtain ⟨_, _, _, _, _, _, _, _, hget, h⟩ := h
      cases hget
      cases h
      exact ⟨rfl, rfl⟩
    · cases h
  | callCode | delegateCall =>
    simp only [enterFrame, bind_eq_ok_iff, get_apply] at h
    obtain ⟨_, _, _, _, _, hget, h⟩ := h
    cases hget
    cases h
    exact ⟨rfl, rfl⟩
  | create caller code gas value =>
    rw [enterFrame, bind_eq_ok_iff] at h
    obtain ⟨_, _, _, h⟩ := h
    split at h <;> simp only [bind_eq_ok_iff, get_apply] at h
    · obtain ⟨_, _, _, _, _, _, _, _, hget, h⟩ := h
      cases hget
      cases h
      exact ⟨rfl, rfl⟩
    · obtain ⟨_, _, _, _, _, hget, h⟩ := h
      cases hget
      cases h
      exact ⟨rfl, rfl⟩

/-- What the setup of a primitive does outside of the store: if a frame is ready, it entered the
opening event of that frame, otherwise nothing. -/
def Opens (p : Primitive) (m : Machine φ) : Except Stop Setup × Machine φ → Prop
  | (.ok (.ready _ frame), m') =>
    frame.depth = m.depth ∧
      ∃ s, m' = { m with store := s, log := m.log.enter (p.opening frame.account m.depth) }
  | (.ok (.over _), m') | (.error _, m') => SameOutside m m'

omit [FaultModel φ] in
/-- What comes first changes the store at most. -/
theorem Opens.of_bind {α : Type} {p : Primitive} {x : Run φ α} {f : α → Run φ Setup}
    {m₀ : Machine φ} (hm : SameOutside m₀ m) (hx : Keeps SameOutside x)
    (hf : ∀ a m', x m = (.ok a, m') → SameOutside m₀ m' → Opens p m₀ (f a m')) :
    Opens p m₀ ((x >>= f) m) := by
  have hforward : SameOutside m₀ (x m).2 := trans_of SameOutside hm (hx m)
  rw [bind_apply]
  rcases hxm : x m with ⟨stop | a, m₁⟩
  all_goals rw [hxm] at hforward
  · exact hforward
  · exact hf a m₁ hxm hforward

theorem opens_setUp (p : Primitive) (m : Machine φ) : Opens p m (host.setUp p m) := by
  have hrefusal : Keeps (φ := φ) SameOutside (host.refusal? p.payer p.gas p.value?) :=
    keeps_refusal? (fun _ _ => .perform fun _ => rfl) _ _ _
  refine .of_bind (refl_of _ m) hrefusal fun outcome? m₁ _ h₁ => ?_
  cases outcome? with
  | some outcome => exact h₁
  | none =>
    refine .of_bind h₁ (keeps_takeAccount (fun op _ => keeps_sameOutside_store op) p)
      fun account m₂ _ h₂ => ?_
    refine .of_bind h₂ (keeps_sameOutside_store .snapshot) fun mark m₃ _ h₃ => ?_
    refine .of_bind h₃ (.undoOnFailure (keeps_sameOutside_store _)
      (keeps_sameOutside_enterFrame account p)) fun frame? m₄ hentered h₄ => ?_
    cases frame? with
    | none => exact h₄
    | some frame =>
      -- the log is the one before the setup, so the opening event is its first entry
      obtain ⟨rfl, hdepth⟩ := account_depth_of_enterFrame (eq_ok_of_undoOnFailure hentered)
      rw [h₃.depth_eq] at hdepth
      refine ⟨hdepth, m₄.store, ?_⟩
      show { m₄ with log := m₄.log.enter (p.opening frame.account frame.depth) } = _
      rw [hdepth, h₄]

/-- Where a frame is ready, its opening event is in the log. -/
theorem log_of_ready {p : Primitive} {mark : Nat} {frame : Frame}
    (h : host.setUp p m = (.ok (.ready mark frame), m')) :
    m'.log = m.log.enter (p.opening frame.account frame.depth) := by
  have hopens := host.opens_setUp p m
  rw [h] at hopens
  obtain ⟨hdepth, s, hm'⟩ := hopens
  rw [hm', hdepth]

/-! ### Closing a frame -/

/-- What is left to do about a frame adds the event that closes it, if there is one. -/
def Closes (depth : UInt64) (ended : FrameEnd) (m : Machine φ)
    (settled : Except Stop Outcome × Machine φ) : Prop :=
  settled.2.log = m.log.enterAll (CallTree.closing? depth (.ok ended) settled.1).toList

section

variable (hφ : FaultModel.SparesReverts φ) {l : Ledger}

include hφ

/-- A failure that leaves its primitive closes the frame on the way. -/
theorem closes_rollBack (hl : l.Precedes m.store.ledger) (frame : Frame) {ended : FrameEnd}
    {failure : Failure} (hended : ended.result = .error failure) :
    Closes frame.depth ended m
      ((rollBack l.snapshot frame failure >>= fun _ => (fail failure : Run φ Outcome)) m) := by
  rw [bind_of_ok (rollBack_eq hφ hl frame failure)]
  show m.log.enter _ =
    m.log.enterAll (CallTree.closing? frame.depth (.ok ended) (.error (.failed failure))).toList
  rw [CallTree.closing?_of_failure hended]
  rfl

theorem closes_settleCall (hl : l.Precedes m.store.ledger) (frame : Frame) (ended : FrameEnd) :
    Closes frame.depth ended m (host.settleCall l.snapshot frame ended m) := by
  unfold settleCall
  cases hended : ended.result with
  | ok output => rfl
  | error failure =>
    by_cases hpropagates : failure.propagates = true
    · simp only [if_pos hpropagates]
      exact closes_rollBack hφ hl frame hended
    · -- the failure becomes the outcome, and telling the watchdogs leaves the log alone
      simp only [if_neg hpropagates]
      rw [bind_of_ok (rollBack_eq hφ hl frame failure)]
      unfold flagThrow tell
      cases host.env.txHash <;> rfl

omit hφ in
theorem keeps_sameOutside_depositCode (mark : Nat) (a : Address) (ended : FrameEnd) :
    Keeps (φ := φ) SameOutside (depositCode mark a ended) := by
  unfold depositCode
  cases ended.result with
  | error failure => exact .pure _
  | ok code =>
    dsimp only
    split
    · exact .pure _
    cases Checked.sub ended.gasLeft (Checked.saturate (codeBytePrice * code.length)) with
    | none => exact .pure _
    | some left =>
      have hstored : Keeps (φ := φ) SameOutside (.undoOnFailure mark (store (.setCode a code))) :=
        .undoOnFailure (keeps_sameOutside_store _) (keeps_sameOutside_store _)
      exact .bind hstored fun _ => .pure _

omit hφ in
/-- Storing the code of a creation stops only if there is code to store. -/
theorem exists_code_of_depositCode {mark : Nat} {a : Address} {ended : FrameEnd} {stop : Stop}
    (h : depositCode mark a ended m = (.error stop, m')) : ∃ code, ended.result = .ok code := by
  unfold depositCode at h
  cases hended : ended.result with
  | ok code => exact ⟨code, rfl⟩
  | error failure =>
    rw [hended] at h
    cases h

theorem closes_concludeCreation (hl : l.Precedes m.store.ledger) (frame : Frame)
    (ended : FrameEnd) :
    Closes frame.depth ended m (host.concludeCreation l.snapshot frame ended m) := by
  have hlog := (keeps_sameOutside_depositCode l.snapshot frame.account ended m).log_eq
  have hforward := depositCode_cases hφ hl frame.account ended
  rw [concludeCreation, bind_apply]
  rcases hd : depositCode l.snapshot frame.account ended m with ⟨stop | ⟨failure?, left⟩, m₁⟩
  all_goals rw [hd] at hlog hforward
  · -- the output could not be stored, and nothing closes the frame
    obtain ⟨code, hcode⟩ := exists_code_of_depositCode hd
    rw [Closes, CallTree.closing?_of_output hcode]
    exact hlog
  · obtain ⟨_, _, h, -⟩ | ⟨-, hforward⟩ := hforward
    · cases h
    dsimp only at hlog hforward ⊢
    by_cases hundone : host.undoesCreation ended.output failure? = true
    · obtain ⟨m₂, hclose, -, hm₂⟩ := host.closeCreation_eq frame ended failure? 0 (m₁.backTo l)
      rw [if_pos hundone, bind_of_ok (revert_apply hφ hforward), hclose, Closes, ← hlog]
      cases failure? <;> exact hm₂
    · obtain ⟨m₂, hclose, -, hm₂⟩ := host.closeCreation_eq frame ended failure? left m₁
      rw [if_neg hundone, hclose, Closes, ← hlog]
      cases failure? <;> exact hm₂

theorem closes_settleCreation (hl : l.Precedes m.store.ledger) (frame : Frame)
    (ended : FrameEnd) :
    Closes frame.depth ended m (host.settleCreation l.snapshot frame ended m) := by
  unfold settleCreation
  cases hended : ended.result with
  | ok output => exact closes_concludeCreation hφ hl frame ended
  | error failure =>
    by_cases hpropagates : failure.propagates = true
    · simp only [if_pos hpropagates]
      exact closes_rollBack hφ hl frame hended
    · simp only [if_neg hpropagates]
      exact closes_concludeCreation hφ hl frame ended

/-- **Settling a frame closes it**, except if its output cannot be stored as code. -/
theorem closes_settle (hl : l.Precedes m.store.ledger) (p : Primitive) (frame : Frame)
    (ended : FrameEnd) :
    Closes frame.depth ended m (host.settle p l.snapshot frame ended m) := by
  cases p with
  | call | callCode | delegateCall => exact closes_settleCall hφ hl frame ended
  | create caller code gas value => exact closes_settleCreation hφ hl frame ended

/-! ### Whole runs -/

/-- The log grew by the events of these trees, and the earlier ledger can be gone back to. -/
structure Logs (calls : List CallTree) (m m' : Machine φ) : Prop where
  journaled : Journaled m m'
  log_eq : m'.log = m.log.enterAll (CallTree.allEvents calls)

omit [FaultModel φ] hφ in
instance : Accumulates (φ := φ) Logs where
  refl m := ⟨refl_of Journaled m, rfl⟩
  trans h h' := by
    refine ⟨trans_of Journaled h.journaled h'.journaled, ?_⟩
    rw [h'.log_eq, h.log_eq, CallTree.allEvents_append, CallLog.enterAll_append]

omit hφ in
theorem keeps_sameLog_reply (nested : Primitive → Run φ Outcome) {q : Query}
    (hd : ∀ p, q ≠ .dispatch p) (hswitch : ∀ isActive, q ≠ .setTracing isActive) :
    Keeps (φ := φ) SameLog (host.reply nested q) := by
  have htell (change : Word → Watchdog → Watchdog) : Keeps (φ := φ) SameLog (host.tell change) :=
    Respects.keeps_tell fun _ _ _ => rfl
  cases q with
  | dispatch p => exact (hd p rfl).elim
  | setTracing isActive => exact (hswitch isActive rfl).elim
  | storeWord a key value =>
    refine .attempt (.bind (.store fun _ => rfl) fun _ => ?_)
    exact .bind (htell _) fun _ => .store fun _ => rfl
  | loadWord a key => exact .attempt (.store fun _ => rfl)
  | trace line => exact htell _
  | store op => exact .ask fun _ => rfl
  | blockHash => exact .pure _
  | isCancelled | depth | remembered => exact .bind .get fun _ => .pure _
  | cancel | setDepth | note | remember => exact .modify fun _ => rfl

theorem nests_logs (hooks : host.env.IsTame) : host.Nests Query.KeepsLog (Logs (φ := φ)) := by
  have hrespects : host.Respects Query.GoesForward (Journaled (φ := φ)) :=
    respects_journaled_of_goesForward hφ hooks
  refine { reply := ?reply, setDepth := ?setDepth, rewind := ?rewind, exhausted := ?exhausted
           bare := ?bare, unwound := ?unwound, settle := ?settle }
  case reply =>
    intro nested q hq hd m
    refine ⟨hrespects.reply nested q hq.goesForward hd m, ?_⟩
    exact keeps_sameLog_reply nested hd (fun _ h => by subst h; exact hq) m
  case setDepth => exact fun m depth => ⟨.refl _, rfl⟩
  case rewind =>
    intro calls m₀ m h
    rw [revert_apply hφ h.journaled]
    exact ⟨.refl _, h.log_eq⟩
  case exhausted => exact fun p m => ⟨.refl _, rfl⟩
  case bare =>
    intro p m m' ended answer hs hno
    have hforward := hrespects.setUp p m
    have hopens := host.opens_setUp p m
    rw [hs] at hforward hopens
    refine ⟨hforward, ?_⟩
    rcases ended with stop | outcome | ⟨mark, frame⟩
    · exact hopens.log_eq
    · exact hopens.log_eq
    · exact (hno mark frame rfl).elim
  case unwound =>
    intro p m m₁ m₂ mark frame calls stop hs hcalls
    have hforward := hrespects.setUp p m
    rw [hs] at hforward
    refine ⟨trans_of Journaled hforward hcalls.journaled, ?_⟩
    rw [hcalls.log_eq, log_of_ready hs, CallTree.allEvents_singleton, CallTree.events]
    simp only [CallTree.closing?, Option.toList_none, List.append_nil]
    rfl
  case settle =>
    intro p m m₁ m₂ mark frame calls ended hs hcalls
    obtain ⟨m₀, rfl, hbefore, hafter⟩ := hrespects.mark hs
    have hforward : Journaled m₀ m₂ := trans_of Journaled hafter hcalls.journaled
    have hcloses := host.closes_settle hφ hforward p frame ended
    rw [Closes, hcalls.log_eq, log_of_ready hs, ← CallLog.enterAll_append] at hcloses
    refine ⟨trans_of Journaled hbefore (hrespects.settle hforward p frame ended), ?_⟩
    rw [CallTree.allEvents_singleton, CallTree.events]
    exact hcloses

end

/-- **What a guarded run adds to the log is balanced exactly if none of its frames is left open.**
The log grows by the events of the primitives that were dispatched, first one first, whatever the
store refuses and wherever a panic starts.  A frame that a panic goes through is left open, and so
is one whose output cannot be stored as code. -/
theorem guarded_balanced_iff (hφ : FaultModel.SparesReverts φ) (hooks : host.env.IsTame)
    (hprograms : host.interpreter.Only Query.KeepsLog) {α : Type}
    {body : Program (Except Failure α)} (hbody : body.Only Query.KeepsLog) (m : Machine φ)
    (hactive : m.log.isActive) :
    (Run.guarded (do Run.ofExcept (← host.run host.dispatch body)) m).2.log.events.toList =
        m.log.events.toList ++
          CallTree.allEvents (host.runCalls host.dispatch host.callTree body m) ∧
      (Balanced (CallTree.allEvents (host.runCalls host.dispatch host.callTree body m)) ↔
        ∀ call ∈ CallTree.allCalls (host.runCalls host.dispatch host.callTree body m),
          ¬call.IsLeftOpen) := by
  have hnests : host.Nests Query.KeepsLog (Logs (φ := φ)) := nests_logs hφ hooks
  have hrun := hnests.run (hnests.dispatch hprograms) hbody m
  have hguarded := hnests.guarded (Nests.bind_keeps hrun fun ended => .ofExcept ended)
  refine ⟨?_, CallTree.balanced_allEvents_iff _⟩
  rw [hguarded.log_eq]
  exact CallLog.toList_enterAll hactive _

end Host

/-- Account 8 panics, all other accounts call it. -/
def Interpreter.brittle : Interpreter := fun frame _ =>
  if frame.account = 8 then .panic (some "boom")
  else .ask (.dispatch (.call frame.account 8 [] 5 0)) fun _ =>
    .done { result := .ok [], gasLeft := frame.gasRemaining }

theorem Interpreter.keepsLog_brittle : brittle.Only Query.KeepsLog := by
  intro frame input
  unfold brittle
  split
  · trivial
  · exact ⟨trivial, fun _ => trivial⟩

namespace Host

/-- A host on which account 8 panics. -/
def ofBrittle : Host where
  rules := ChainConfig.rules (.allForksActive 1) 0
  interpreter := .brittle

/-- A machine with code at the accounts 8 and 9. -/
def withCode : Machine NoFaults where
  store := { ledger := (Ledger.seed {} 8 { code := [1] }).seed 9 { code := [1] }, faults := {} }
  pair := .disabled

/-- A call of account 9. -/
def callNine : Program (Except Failure Unit) :=
  .ask (.dispatch (.call 1 9 [] 10 0)) fun _ => .done (.ok ())

/-- The panic leaves both frames open that it goes through. -/
theorem guarded_balanced_brittle :
    (Run.guarded (do Run.ofExcept (← ofBrittle.run ofBrittle.dispatch callNine))
        withCode).2.log.events.toList =
      [.call 1 9 0 10 [] 0, .call 9 8 0 5 [] 1] ∧
      ¬Balanced [.call 1 9 0 10 [] 0, .call 9 8 0 5 [] 1] := by
  have hevents : CallTree.allEvents
      (ofBrittle.runCalls ofBrittle.dispatch ofBrittle.callTree callNine withCode) =
        [.call 1 9 0 10 [] 0, .call 9 8 0 5 [] 1] := by
    decide +kernel
  have hopen : ∃ call ∈ CallTree.allCalls
      (ofBrittle.runCalls ofBrittle.dispatch ofBrittle.callTree callNine withCode),
        call.IsLeftOpen := by
    decide +kernel
  have hbody : callNine.Only Query.KeepsLog := ⟨trivial, fun _ => trivial⟩
  obtain ⟨hlog, hbalanced⟩ := ofBrittle.guarded_balanced_iff FaultModel.noFaults_sparesReverts
    (Environment.isTame_of_default rfl rfl) Interpreter.keepsLog_brittle hbody withCode rfl
  rw [hevents] at hlog hbalanced
  refine ⟨hlog, fun h => ?_⟩
  obtain ⟨call, hcall, hopen⟩ := hopen
  exact hbalanced.1 h call hcall hopen

end Host

end CallWatch
