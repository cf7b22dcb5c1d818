import CallWatch.Proofs.Machine.Similar
import CallWatch.Proofs.Machine.Watching

/-!
# Watching changes nothing

A run takes the same course and comes to the same end whoever watches it.  `Run.Agree x x'` says so
of two computations: on machines that differ in their watchdogs and their call logs at most, they
end alike, and the machines still differ in nothing else.

Two hosts that differ in the list of their watchers have primitives that agree, however deeply they
nest (`Host.agree_dispatch`).  Where no call is refused, the watchdogs of a transaction can always
read what they need, so its executions agree as well, whatever state the watchdogs are in and
wherever their reports go (`Host.agree_execute`).
-/

namespace CallWatch

open Run

/-- The machines differ in their watchdogs and their call logs at most. -/
def Host.SameSight {φ : Type} (m m' : Machine φ) : Prop :=
  m' = { m with pair := m'.pair, log := m'.log }

namespace Run

open Host

variable {φ α β : Type}

instance : Sees (SameSight (φ := φ)) where
  store_eq h := by rw [h]
  depth_eq h := by rw [h]
  withStore h store := by rw [SameSight, h]
  withDepth h depth := by rw [SameSight, h]
  enter h event := by rw [SameSight, h]

/-- On machines that differ in watchdogs and call log at most, the computations end alike, and so
do the machines after them. -/
def Agree (x x' : Run φ α) : Prop :=
  ∀ (m : Machine φ) (pair : WatchPair) (log : CallLog), ∃ pair' log',
    x' { m with pair, log } = ((x m).1, { (x m).2 with pair := pair', log := log' })

namespace Agree

variable {x x' : Run φ α} {f f' : α → Run φ β}

theorem similar (h : Agree x x') : Similar SameSight x x' := by
  intro m m' hm
  obtain ⟨pair', log', heq⟩ := h m m'.pair m'.log
  rw [← show m' = _ from hm] at heq
  rw [heq]
  exact ⟨rfl, rfl⟩

theorem of_similar (h : Similar SameSight x x') : Agree x x' := by
  intro m pair log
  obtain ⟨hanswer, hafter⟩ := h m { m with pair, log } rfl
  refine ⟨(x' { m with pair, log }).2.pair, (x' { m with pair, log }).2.log, ?_⟩
  exact Prod.ext hanswer hafter

theorem pure (a : α) : Agree (Pure.pure a : Run φ α) (Pure.pure a) :=
  of_similar (.pure a)

theorem stop (s : Stop) : Agree (Run.stop s : Run φ α) (Run.stop s) :=
  fun _ pair log => ⟨pair, log, rfl⟩

theorem fail (failure : Failure) : Agree (Run.fail failure : Run φ α) (Run.fail failure) :=
  stop _

theorem ofExcept (answer : Except Failure α) :
    Agree (Run.ofExcept answer : Run φ α) (Run.ofExcept answer) := by
  cases answer with
  | ok a => exact pure a
  | error failure => exact fail failure

theorem bind (hx : Agree x x') (hf : ∀ a, Agree (f a) (f' a)) : Agree (x >>= f) (x' >>= f') :=
  of_similar (hx.similar.bind fun a => (hf a).similar)

/-- What goes on with the machine must not look at its watchdogs and its call log. -/
theorem get_bind {g g' : Machine φ → Run φ α}
    (h : ∀ m pair log, Agree (g m) (g' { m with pair, log })) :
    Agree (Run.get >>= g) (Run.get >>= g') :=
  fun m pair log => h m pair log m pair log

/-- So must a change, except that it may change them. -/
theorem modify {change change' : Machine φ → Machine φ}
    (h : ∀ m pair log, ∃ pair' log',
      change' { m with pair, log } = { change m with pair := pair', log := log' }) :
    Agree (Run.modify change) (Run.modify change') := by
  intro m pair log
  obtain ⟨pair', log', heq⟩ := h m pair log
  exact ⟨pair', log', congrArg (Prod.mk _) heq⟩

theorem attempt (hx : Agree x x') : Agree (Run.attempt x) (Run.attempt x') :=
  of_similar hx.similar.attempt

variable [FaultModel φ]

theorem ask (op : StoreOp) : Agree (Run.ask op : Run φ _) (Run.ask op) :=
  fun _ pair log => ⟨pair, log, rfl⟩

theorem store (op : StoreOp) : Agree (Run.store op : Run φ _) (Run.store op) :=
  of_similar (.store op)

theorem guarded (hx : Agree x x') : Agree (Run.guarded x) (Run.guarded x') := by
  intro m pair log
  obtain ⟨pair', log', h⟩ := hx m pair log
  rw [guarded_apply, guarded_apply, h]
  rcases x m with ⟨(failure | message | _) | a, m₁⟩
  case error.panicked =>
    have hdepth : Agree (φ := φ) (Run.modify fun after => { after with depth := m.depth })
        (Run.modify fun after => { after with depth := m.depth }) :=
      .modify fun _ pair log => ⟨pair, log, rfl⟩
    have hback := bind (store (φ := φ) (.revert m.store.ledger.snapshot)) fun _ =>
      bind hdepth fun _ => fail (α := α) (.internal (.panic (message.getD unknownPanic)))
    exact hback m₁ pair' log'
  all_goals exact ⟨pair', log', rfl⟩

end Agree

end Run

namespace Host

variable {φ : Type} {host : Host} {watchers : List WatchKind}

/-- The host with another list of watchers. -/
def watchedBy (host : Host) (watchers : List WatchKind) : Host :=
  { host with watchers }

/-- Whatever watchdogs are told, it is seen by nobody. -/
theorem agree_tell (host host' : Host) (change change' : Word → Watchdog → Watchdog) :
    Agree (host.tell change : Run φ Unit) (host'.tell change') := by
  intro m pair log
  unfold tell
  cases host.env.txHash <;> cases host'.env.txHash <;> exact ⟨_, _, rfl⟩

variable [FaultModel φ] {nested nested' : Primitive → Run φ Outcome}

/-! ### Programs and frames -/

theorem agree_reply (hnested : ∀ p, Agree (nested p) (nested' p)) (q : Query) :
    Agree (host.reply nested q) ((host.watchedBy watchers).reply nested' q) := by
  cases q with
  | dispatch p => exact .attempt (hnested p)
  | storeWord account key value =>
    refine .attempt (.bind (.store _) fun current => ?_)
    exact .bind (agree_tell _ _ _ _) fun _ => .store _
  | loadWord account key => exact .attempt (.store _)
  | trace line => exact agree_tell _ _ _ _
  | store op => exact .ask op
  | blockHash number => exact .pure _
  | isCancelled | depth | remembered => exact .get_bind fun _ _ _ => .pure _
  | setTracing isActive => exact .modify fun _ pair log => ⟨pair, { log with isActive }, rfl⟩
  | cancel | setDepth | note | remember => exact .modify fun _ pair log => ⟨pair, log, rfl⟩

/-- **A program cannot tell who watches it.** -/
theorem agree_run (hnested : ∀ p, Agree (nested p) (nested' p)) {α : Type} (program : Program α) :
    Agree (host.run nested program) ((host.watchedBy watchers).run nested' program) := by
  induction program with
  | done value => exact .pure value
  | panic message => exact .stop _
  | ask query next ih => exact .bind (agree_reply hnested query) ih
  | guarded body next ihBody ihNext =>
    exact .bind (.attempt (.guarded (.bind ihBody fun _ => .ofExcept _))) ihNext

theorem agree_runFrame (hnested : ∀ p, Agree (nested p) (nested' p)) (frame : Frame)
    (input : Bytes) :
    Agree (host.runFrame nested frame input)
      ((host.watchedBy watchers).runFrame nested' frame input) := by
  unfold runFrame
  dsimp only [watchedBy]
  cases host.precompiles[frame.codeAddress]? with
  | some precompile => exact .pure _
  | none =>
    dsimp only
    split
    · exact .pure _
    refine .get_bind fun before pair log => ?_
    dsimp only
    split
    · exact .pure _
    cases Checked.add before.depth 1 with
    | none => exact .pure _
    | some depth =>
      refine .bind (.modify fun _ pair log => ⟨pair, log, rfl⟩) fun _ => ?_
      refine .bind (agree_run hnested _) fun ended => .get_bind fun after pair log => ?_
      dsimp only
      cases Checked.sub after.depth 1 with
      | none => exact .pure _
      | some depth => exact .bind (.modify fun _ pair log => ⟨pair, log, rfl⟩) fun _ => .pure _

/-! ### Around the frames -/

theorem agree_setUp (p : Primitive) :
    Agree (host.setUp p : Run φ _) ((host.watchedBy watchers).setUp p) := by
  -- setting up does not look at the watchers
  show Agree (host.setUp p) (host.setUp p)
  exact .of_similar (similar_setUp p)

theorem agree_settle (p : Primitive) (mark : Nat) (frame : Frame) (ended : FrameEnd) :
    Agree (host.settle p mark frame ended : Run φ _)
      ((host.watchedBy watchers).settle p mark frame ended) := by
  have hflag : Agree (φ := φ) host.flagThrow (host.watchedBy watchers).flagThrow :=
    agree_tell _ _ _ _
  exact .of_similar (similar_settle hflag.similar rfl p mark frame ended)

/-! ### Primitives and transactions -/

theorem agree_primitive (hnested : ∀ p, Agree (nested p) (nested' p)) (p : Primitive) :
    Agree (host.primitive nested p) ((host.watchedBy watchers).primitive nested' p) := by
  refine .bind (agree_setUp p) fun setup => ?_
  cases setup with
  | «over» outcome => exact .pure _
  | ready mark frame =>
    exact .bind (agree_runFrame hnested frame frame.calldata) fun ended =>
      agree_settle p mark frame ended

theorem agree_dispatchWithin (bound : Nat) (p : Primitive) :
    Agree (host.dispatchWithin bound p : Run φ _)
      ((host.watchedBy watchers).dispatchWithin bound p) := by
  -- what is nested in a primitive runs within a smaller bound
  induction bound generalizing p with
  | zero => exact .stop _
  | succ bound ih => exact agree_primitive ih p

/-- **Primitives take the same course whoever watches.** -/
theorem agree_dispatch (p : Primitive) :
    Agree (host.dispatch p : Run φ _) ((host.watchedBy watchers).dispatch p) :=
  agree_dispatchWithin _ p

/-! ### Transactions -/

theorem agree_runRoot (tx : Transaction) :
    Agree (host.runRoot tx : Run φ _) ((host.watchedBy watchers).runRoot tx) := by
  unfold runRoot
  cases tx.kind with
  | create => exact .guarded (agree_dispatch _)
  | call target =>
    refine .bind (.store _) fun nonce => ?_
    cases Checked.add nonce 1 with
    | none => exact .fail _
    | some next => exact .bind (.store _) fun _ => .guarded (agree_dispatch _)

/-- Where no call is refused, the pair can be armed, whatever state it is in. -/
theorem agree_arm (tx : Transaction) : Agree (φ := NoFaults) (arm tx) (arm tx) := by
  intro m pair log
  rw [arm_eq, arm_eq]
  exact ⟨_, log, rfl⟩

theorem agree_flagResult (hash : Word) (result : Result) :
    Agree (φ := NoFaults) (flagResult hash result) (flagResult hash result) := by
  intro m pair log
  unfold flagResult
  split
  · exact ⟨pair, log, rfl⟩
  · rw [markThrown_eq, markThrown_eq]
    exact ⟨_, log, rfl⟩

/-- It can be finalized as well, whatever becomes of the reports. -/
theorem agree_finalize (receipt : Receipt) :
    Agree (φ := NoFaults) (finalize receipt) (finalize receipt) := by
  intro m pair log
  rw [finalize_eq, finalize_eq]
  exact ⟨_, log, rfl⟩

theorem agree_abandon (tx : Transaction) (failure : Failure) :
    Agree (φ := NoFaults) (abandon tx failure) (abandon tx failure) := by
  have hthrown : Agree (φ := NoFaults) (markThrown tx.hash) (markThrown tx.hash) :=
    agree_flagResult tx.hash (.reverted failure)
  exact .bind hthrown fun _ => .bind (agree_finalize _) fun _ => .fail failure

theorem agree_conclude (tx : Transaction) (outcome : Outcome) :
    Agree (φ := NoFaults) (conclude tx outcome) (conclude tx outcome) := by
  refine .bind (agree_flagResult _ _) fun _ => ?_
  cases Checked.sub tx.gasLimit outcome.gasLeft with
  | none => exact .fail _
  | some gasUsed =>
    refine .bind (agree_finalize _) fun fault? => ?_
    cases fault? with
    | some fault => exact .fail _
    | none => exact .pure _

/-- **Transactions end alike whoever watches them**, where no call is refused. -/
theorem agree_execute (tx : Transaction) :
    Agree (φ := NoFaults) (host.execute tx) ((host.watchedBy watchers).execute tx) := by
  show Agree (if host.env.txHash = some tx.hash then _ else _)
    (if host.env.txHash = some tx.hash then _ else _)
  split
  · refine .bind (agree_arm tx) fun _ => .bind (.attempt (agree_runRoot tx)) fun ended => ?_
    cases ended with
    | error failure => exact agree_abandon tx failure
    | ok outcome => exact agree_conclude tx outcome
  · exact .fail _

/-- **Watching changes nothing.**  A primitive, behind any layer of faults, and a transaction, where
no call is refused, end alike and leave the same machine, watchdogs and call log apart: whichever
watchdogs are told, whatever state they are in, wherever their reports go, and whether or not the
call log is switched on. -/
theorem unobserved (host : Host) (watchers : List WatchKind) :
    (∀ {φ : Type} [FaultModel φ] (p : Primitive) (m : Machine φ) (pair : WatchPair) (log : CallLog),
      ∃ pair' log', (host.watchedBy watchers).dispatch p { m with pair, log } =
        ((host.dispatch p m).1, { (host.dispatch p m).2 with pair := pair', log := log' })) ∧
    ∀ (tx : Transaction) (m : Machine NoFaults) (pair : WatchPair) (log : CallLog),
      ∃ pair' log', (host.watchedBy watchers).execute tx { m with pair, log } =
        ((host.execute tx m).1, { (host.execute tx m).2 with pair := pair', log := log' }) := by
  constructor
  · intro φ _ p
    exact agree_dispatch p
  · exact agree_execute

end Host

end CallWatch
