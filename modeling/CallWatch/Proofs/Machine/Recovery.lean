import CallWatch.Proofs.Machine.Rollback
import CallWatch.Proofs.Machine.Unobserved

/-!
# After a panic

A panic stops all frames that are running at once, and none of them gets to put back what it
changed: the depths that they raised stay raised, and the journal keeps all their entries.  One
guard around them puts everything back (`Host.guarded_panic`): the accounts and the journal, by
going back to the mark that it took, and the depth, which it had read.

Two invariants carry this through whatever ran before the panic.  The journal only grew from the
mark on (`Journaled`), so going back gives the marked ledger itself; and nothing that programs keep
was touched (`SameMind`).  What the panic does leave behind are entries in the call log and what
the watchdogs were told, and of these no primitive can tell (`SameSight.dispatch`).
-/

namespace CallWatch

open Run

/-- Whether a request neither goes back in the store by itself nor keeps anything for programs to
come. -/
def Query.IsFleeting : Query → Prop
  | .store (.revert _) | .note _ | .remember _ => False
  | _ => True

theorem Query.IsFleeting.goesForward {q : Query} (h : q.IsFleeting) : q.GoesForward := by
  cases q with
  | store op =>
    cases op with
    | revert => exact h.elim
    | _ => trivial
  | _ => trivial

namespace Host

variable {φ : Type} {host : Host} {m m' : Machine φ}

/-! ### What programs keep -/

/-- What programs remember and noted down is the same. -/
def SameMind (m m' : Machine φ) : Prop :=
  m'.memory = m.memory ∧ m'.notes = m.notes

instance : IsPreorder (Machine φ) SameMind where
  refl _ := ⟨rfl, rfl⟩
  trans _ _ _ h h' := ⟨h'.1.trans h.1, h'.2.trans h.2⟩

theorem keeps_sameMind_tell (change : Word → Watchdog → Watchdog) :
    Keeps (φ := φ) SameMind (host.tell change) :=
  Respects.keeps_tell fun _ _ _ => ⟨rfl, rfl⟩

/-- No step of a run changes what programs keep, unless it is asked to. -/
theorem respects_sameMind [FaultModel φ] :
    host.Respects Query.IsFleeting (SameMind (φ := φ)) := by
  refine .of_apart (fun _ _ _ _ => ⟨rfl, rfl⟩) (fun nested q hq hd => ?_) (keeps_sameMind_tell _)
  cases q with
  | dispatch p => exact (hd p rfl).elim
  | storeWord a key value =>
    refine .attempt (.bind (.store fun _ => ⟨rfl, rfl⟩) fun current => ?_)
    exact .bind (keeps_sameMind_tell _) fun _ => .store fun _ => ⟨rfl, rfl⟩
  | loadWord a key => exact .attempt (.store fun _ => ⟨rfl, rfl⟩)
  | trace line => exact keeps_sameMind_tell _
  | store op => exact .ask fun _ => ⟨rfl, rfl⟩
  | blockHash => exact .pure _
  | isCancelled | depth | remembered => exact .bind .get fun _ => .pure _
  | cancel | setDepth | setTracing => exact .modify fun _ => ⟨rfl, rfl⟩
  | note | remember => exact hq.elim

/-! ### What primitives can tell apart -/

/-- **No primitive can tell such machines apart**, nor do they grow apart by it. -/
theorem SameSight.dispatch [FaultModel φ] (h : SameSight m m') (p : Primitive) :
    (host.dispatch p m').1 = (host.dispatch p m).1 ∧
      SameSight (host.dispatch p m).2 (host.dispatch p m').2 := by
  have hwatched : Agree (φ := φ) (host.dispatch p) ((host.watchedBy host.watchers).dispatch p) :=
    agree_dispatch p
  obtain ⟨pair', log', hagree⟩ := hwatched m m'.pair m'.log
  have hsame : host.dispatch p m' =
      ((host.dispatch p m).1, { (host.dispatch p m).2 with pair := pair', log := log' }) := by
    rw [h]
    exact hagree
  rw [hsame]
  exact ⟨rfl, rfl⟩

/-! ### The guard -/

/-- **The guard puts ledger and depth back**, where the ledger can be taken back. -/
theorem guarded_of_panicked [FaultModel φ] (hφ : FaultModel.SparesReverts φ) {α : Type}
    {x : Run φ α} {message : Option String} (hpanic : x m = (.error (.panicked message), m'))
    (hforward : Journaled m m') :
    Run.guarded x m =
      (.error (.failed (.internal (.panic (message.getD unknownPanic)))),
        { m'.backTo m.store.ledger with depth := m.depth }) := by
  rw [guarded_apply, hpanic]
  dsimp only
  rw [bind_of_ok (revert_apply hφ hforward)]
  rfl

/-- **A caught panic leaves no residue.**  On any machine whose store has no faults, let a body run
that may dispatch any primitives, under an interpreter whose programs neither go back in the store
by themselves nor keep anything from one to the next, and let it panic: in whatever depth, and
after whatever frames ended, wrote or failed before.  The guard answers with the panic as a
failure.  Accounts, journal and depth are those from before; and if the machine was not cancelled
meanwhile, every primitive that is dispatched next ends as if nothing had happened, and does to the
machine what it would have done, watchdogs and call log apart. -/
theorem guarded_panic (hooks : host.env.IsTame)
    (hprograms : host.interpreter.Only Query.IsFleeting) {α : Type}
    {body : Program (Except Failure α)} (hbody : body.Only Query.IsFleeting)
    {m : Machine NoFaults} {message : Option String}
    (hpanic : (host.run host.dispatch body m).1 = .error (.panicked message)) :
    ∃ after,
      Run.guarded (do Run.ofExcept (← host.run host.dispatch body)) m =
        (.error (.failed (.internal (.panic (message.getD unknownPanic)))), after) ∧
      after.store.ledger = m.store.ledger ∧ after.depth = m.depth ∧
      (after.isCancelled = m.isCancelled → ∀ p,
        (host.dispatch p after).1 = (host.dispatch p m).1 ∧
          SameSight (host.dispatch p m).2 (host.dispatch p after).2) := by
  have hφ := FaultModel.noFaults_sparesReverts
  have hmono (q : Query) (hq : q.IsFleeting) : q.GoesForward := hq.goesForward
  -- what holds all along the run, however deeply the panic was nested
  have hjournal : host.Respects Query.GoesForward Journaled :=
    respects_journaled_of_goesForward hφ hooks
  have hforward := hjournal.run (hjournal.dispatch fun frame input => (hprograms frame input).mono
    hmono) (hbody.mono hmono) m
  have hmind : host.Respects Query.IsFleeting (SameMind (φ := NoFaults)) := respects_sameMind
  have hkept := hmind.run (hmind.dispatch hprograms) hbody m
  rcases hrun : host.run host.dispatch body m with ⟨ended, m'⟩
  rw [hrun] at hpanic hforward hkept
  obtain rfl : ended = .error (.panicked message) := hpanic
  have hx : (do Run.ofExcept (← host.run host.dispatch body)) m =
      (.error (.panicked message), m') := by
    rw [bind_apply, hrun]
  refine ⟨_, guarded_of_panicked hφ hx hforward, rfl, rfl, fun hcancelled p => ?_⟩
  have hsight : SameSight m { m'.backTo m.store.ledger with depth := m.depth } := by
    obtain ⟨hmemory, hnotes⟩ := hkept
    rw [SameSight, Machine.mk.injEq]
    exact ⟨rfl, rfl, hcancelled, rfl, rfl, hnotes, hmemory⟩
  exact hsight.dispatch p

end Host

/-- Every account writes a slot.  Then account 5 is done, account 6 fails, account 8 panics, and
all others call these three in turn. -/
def Interpreter.reckless : Interpreter := fun frame _ =>
  let call (a : Address) : Query := .dispatch (.call frame.account a [] 5 0)
  .ask (.storeWord frame.account 1 7) fun _ =>
    if frame.account = 5 then .done { result := .ok [], gasLeft := 0 }
    else if frame.account = 6 then .done { result := .error .reverted, gasLeft := 0 }
    else if frame.account = 8 then .panic (some "boom")
    else .ask (call 5) fun _ => .ask (call 6) fun _ => .ask (call 8) fun _ =>
      .done { result := .ok [], gasLeft := 0 }

theorem Interpreter.isFleeting_reckless : reckless.Only Query.IsFleeting := by
  intro frame input
  refine ⟨trivial, fun _ => ?_⟩
  dsimp only
  split_ifs
  · trivial
  · trivial
  · trivial
  · exact ⟨trivial, fun _ => ⟨trivial, fun _ => ⟨trivial, fun _ => trivial⟩⟩⟩

namespace Host

/-- A host on which account 8 panics. -/
def ofReckless : Host where
  rules := ChainConfig.rules (.allForksActive 1) 0
  interpreter := .reckless

/-- A machine at depth 3 with code at four accounts. -/
def withReckless : Machine NoFaults where
  store := {
    ledger := [5, 6, 8, 9].foldl (fun l a => l.seed a { code := [1] }) {}
    faults := {} }
  depth := 3
  pair := .disabled

/-- Writes for an account of its own and calls account 9. -/
def callReckless : Program (Except Failure Unit) :=
  .ask (.storeWord 1 1 7) fun _ => .ask (.dispatch (.call 1 9 [] 10 0)) fun _ => .done (.ok ())

/-- The panic comes two frames deep and after frames that succeeded and failed, and leaves eleven
journal entries behind; the guard takes them all back. -/
theorem guarded_panic_reckless :
    let panicked := (ofReckless.run ofReckless.dispatch callReckless withReckless).2
    panicked.depth = 5 ∧ panicked.store.ledger.snapshot = 11 ∧
      ∃ after,
        Run.guarded (do Run.ofExcept (← ofReckless.run ofReckless.dispatch callReckless))
          withReckless = (.error (.failed (.internal (.panic "boom"))), after) ∧
        after.store.ledger = withReckless.store.ledger ∧ after.depth = 3 ∧
        ∀ p, (ofReckless.dispatch p after).1 = (ofReckless.dispatch p withReckless).1 ∧
          SameSight (ofReckless.dispatch p withReckless).2 (ofReckless.dispatch p after).2 := by
  have hpanic : (ofReckless.run ofReckless.dispatch callReckless withReckless).1 =
      .error (.panicked (some "boom")) := by
    decide +kernel
  have hbody : callReckless.Only Query.IsFleeting := ⟨trivial, fun _ => ⟨trivial, fun _ => trivial⟩⟩
  obtain ⟨after, hguarded, hledger, hdepth, hnext⟩ := guarded_panic
    (Environment.isTame_of_default rfl rfl) Interpreter.isFleeting_reckless hbody hpanic
  have hafter : (Run.guarded (do Run.ofExcept (← ofReckless.run ofReckless.dispatch callReckless))
      withReckless).2 = after := congrArg Prod.snd hguarded
  have hcancelled : after.isCancelled = withReckless.isCancelled := by
    rw [← hafter]
    decide +kernel
  refine ⟨by decide +kernel, by decide +kernel, after, hguarded, hledger, hdepth, ?_⟩
  exact hnext hcancelled

end Host

end CallWatch
