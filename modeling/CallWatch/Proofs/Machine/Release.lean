import CallWatch.Machine.Execution
import CallWatch.Proofs.Machine.Respects
import CallWatch.Proofs.Watch.Session

/-!
# When watchdogs outlive their transaction

Executing a transaction leaves the sessions of all other transactions alone, and ends those of its
own, with two exceptions (`Host.LeavesArmed`).  A watchdog that was armed for the transaction before
stays armed if the pair cannot be armed, except that the general one is disarmed where the tracer
was the reason.  And a run that leaves more gas than the transaction had ends the execution before
the watchdogs are finalized.

`Host.execute_isWatching_iff` says that there are no others.  What runs in between only attends to
the sessions: it takes notes and neither starts nor ends one.
-/

namespace CallWatch

open Run

theorem Program.only_true {α : Type} (program : Program α) : program.Only fun _ => True := by
  induction program with
  | done | panic => trivial
  | ask query next ih => exact ⟨trivial, ih⟩
  | guarded body next ihBody ihNext => exact ⟨ihBody, ihNext⟩

variable {φ : Type} [FaultModel φ] {m m' : Machine φ}

/-! ### Watchdog operations -/

namespace Run

theorem readBalance_apply (a : Address) (m : Machine φ) :
    ∃ balance, readBalance a m =
      (.ok balance, { m with store := (m.store.perform (.getBalance a)).2 }) := by
  rw [readBalance, bind_apply, ask_apply]
  dsimp only
  cases (m.store.perform (.getBalance a)).1 <;> exact ⟨_, rfl⟩

/-- A watchdog operation is answered by the pair; reading a balance for it may have changed the
layer of faults. -/
theorem watchdog_apply (kind : WatchKind) (op : WatchOp) (m : Machine φ) :
    ∃ balance store, watchdog kind op m =
      (.ok (m.pair.perform (fun _ => balance) kind op).1,
        { m with store, pair := (m.pair.perform (fun _ => balance) kind op).2 }) := by
  cases hreading : (m.pair.get kind).reading? op with
  | none =>
    refine ⟨.ok 0, m.store, ?_⟩
    simp only [watchdog, bind_apply, get_apply, hreading]
    rfl
  | some a =>
    obtain ⟨balance, hbalance⟩ := readBalance_apply a m
    refine ⟨balance, (m.store.perform (.getBalance a)).2, ?_⟩
    simp only [watchdog, bind_apply, get_apply, hreading, hbalance]
    rfl

end Run

namespace Host

variable {host : Host} {tx : Transaction} {hash : Word}

/-! ### Two preorders -/

/-- The sessions of all other transactions are still there. -/
def Spares (hash : Word) (m m' : Machine φ) : Prop :=
  ∀ kind, (m.pair.get kind).Spares hash (m'.pair.get kind)

/-- Besides, each watchdog is armed as it was. -/
def Attends (hash : Word) (m m' : Machine φ) : Prop :=
  ∀ kind, (m.pair.get kind).Attends hash (m'.pair.get kind)

instance : IsPreorder (Machine φ) (Spares hash) where
  refl _ _ := refl_of _ _
  trans _ _ _ h h' kind := trans_of _ (h kind) (h' kind)

instance : IsPreorder (Machine φ) (Attends hash) where
  refl _ _ := refl_of _ _
  trans _ _ _ h h' kind := trans_of _ (h kind) (h' kind)

omit [FaultModel φ] in
theorem Attends.isWatching (h : Attends hash m m') (kind : WatchKind) :
    (m'.pair.get kind).isWatching hash = (m.pair.get kind).isWatching hash := by
  rw [Watchdog.isWatching, Watchdog.isWatching, (h kind).armed]

/-! ### The run -/

omit [FaultModel φ] in
theorem keeps_attends_tell (hbound : host.env.txHash = some hash)
    {change : Word → Watchdog → Watchdog}
    (h : ∀ dog : Watchdog, dog.Attends hash (change hash dog)) :
    Keeps (φ := φ) (Attends hash) (host.tell change) := by
  refine Respects.keeps_tell fun hash' hhash' m => ?_
  rw [hbound] at hhash'
  cases hhash'
  exact fun kind => m.pair.attends_tell host.watchers h kind

/-- **Every step of a run only attends to the sessions**, whatever the programs ask for. -/
theorem respects_attends (hbound : host.env.txHash = some hash) :
    host.Respects (fun _ => True) (Attends (φ := φ) hash) := by
  refine .of_pair ?alone ?record ?trace ?flagThrow
  case alone =>
    intro m m' h kind
    rw [h]
    exact refl_of _ _
  case record =>
    intro key current value
    refine keeps_attends_tell hbound fun dog => ?_
    have hcurrent := dog.attends_recordStorage hash key current
    exact trans_of _ hcurrent (Watchdog.attends_recordStorage _ hash key value)
  case trace =>
    exact fun line => keeps_attends_tell hbound fun dog => dog.attends_writeTrace hash line
  case flagThrow => exact keeps_attends_tell hbound fun dog => dog.attends_flagThrow hash

theorem keeps_attends_runRoot (hbound : host.env.txHash = some hash) (tx : Transaction) :
    Keeps (φ := φ) (Attends hash) (host.runRoot tx) := by
  have hrespects := respects_attends (φ := φ) hbound
  have hstore (op : StoreOp) : Keeps (φ := φ) (Attends hash) (store op) :=
    .store fun m kind => refl_of _ (m.pair.get kind)
  have hdispatch (p : Primitive) : Keeps (φ := φ) (Attends hash) (guarded (host.dispatch p)) :=
    hrespects.guarded (hrespects.dispatch (fun _ _ => Program.only_true _) p)
  unfold runRoot
  cases tx.kind with
  | create => exact hdispatch _
  | call target =>
    refine .bind (hstore _) fun nonce => ?_
    cases Checked.add nonce 1 with
    | none => exact .fail _
    | some next => exact .bind (hstore _) fun _ => hdispatch _

theorem neverPanics_runRoot (tx : Transaction) : NeverPanics (φ := φ) (host.runRoot tx) := by
  unfold runRoot
  cases tx.kind with
  | create => exact NeverPanics.guarded _
  | call target =>
    refine .bind (NeverPanics.store _) fun nonce => ?_
    cases Checked.add nonce 1 with
    | none => exact NeverPanics.fail _
    | some next => exact .bind (NeverPanics.store _) fun _ => NeverPanics.guarded _

/-! ### Before and after the run -/

theorem keeps_spares_watchdog (kind : WatchKind) {op : WatchOp} (hop : op.hash = hash) :
    Keeps (φ := φ) (Spares hash) (watchdog kind op) := by
  intro m kind'
  obtain ⟨balance, store, h⟩ := watchdog_apply kind op m
  rw [h, ← hop]
  exact m.pair.spares_perform kind kind' op

theorem keeps_spares_arm (tx : Transaction) : Keeps (φ := φ) (Spares tx.hash) (arm tx) := by
  refine .bind (keeps_spares_watchdog _ rfl) fun general => ?_
  cases general with
  | error fault => exact .fail _
  | ok _ =>
    refine .bind (keeps_spares_watchdog _ rfl) fun tracer => ?_
    cases tracer with
    | ok _ => exact .pure _
    | error fault => exact .bind (keeps_spares_watchdog _ rfl) fun _ => .fail _

theorem markThrown_apply (hash : Word) (m : Machine φ) :
    ∃ m', markThrown hash m = (.ok (), m') ∧ Attends hash m m' := by
  have hflag (kind : WatchKind) (m : Machine φ) :
      ∃ m', watchdog kind (.flagThrow hash) m = (.ok (), m') ∧ Attends hash m m' := by
    obtain ⟨balance, store, h⟩ := watchdog_apply kind (.flagThrow hash) m
    refine ⟨_, h, fun kind' => ?_⟩
    dsimp only
    rw [WatchPair.get_perform]
    split
    · next hkind =>
      subst hkind
      exact Watchdog.attends_flagThrow _ hash
    · exact refl_of _ _
  obtain ⟨m₁, hgeneral, hm₁⟩ := hflag .general m
  obtain ⟨m₂, htracer, hm₂⟩ := hflag .tracer m₁
  refine ⟨m₂, ?_, trans_of _ hm₁ hm₂⟩
  exact (bind_of_ok hgeneral _).trans htracer

theorem flagResult_apply (hash : Word) (result : Result) (m : Machine φ) :
    ∃ m', flagResult hash result m = (.ok (), m') ∧ Attends hash m m' := by
  unfold flagResult
  split
  · exact ⟨m, rfl, refl_of _ m⟩
  · exact markThrown_apply hash m

theorem keeps_spares_finalize {receipt : Receipt} (hreceipt : receipt.txHash = hash) :
    Keeps (φ := φ) (Spares hash) (finalize receipt) := by
  refine .bind (keeps_spares_watchdog _ hreceipt) fun general => .bind .get fun before => ?_
  refine .bind (keeps_spares_watchdog _ hreceipt) fun tracer => ?_
  split <;> exact .pure _

/-- **Finalizing brings both watchdogs to rest**, whatever they can read. -/
theorem isWatching_finalize (receipt : Receipt) (m : Machine φ) :
    ∃ fault? m', finalize receipt m = (.ok fault?, m') ∧
      ∀ kind, (m'.pair.get kind).isWatching receipt.txHash = false := by
  obtain ⟨balance, store, hgeneral⟩ := watchdog_apply .general (.finish receipt none) m
  generalize hm₁ : { m with store, pair := _ } = m₁ at hgeneral
  obtain ⟨balance', store', htracer⟩ :=
    watchdog_apply .tracer (.finish receipt (some m₁.log.toJson)) m₁
  generalize hm₂ : { m₁ with store := store', pair := _ } = m₂ at htracer
  have hrest (kind : WatchKind) : (m₂.pair.get kind).isWatching receipt.txHash = false := by
    subst hm₂
    dsimp only
    rw [WatchPair.get_perform]
    cases kind with
    | general =>
      subst hm₁
      rw [if_neg (by decide), WatchPair.get_perform, if_pos rfl]
      exact Watchdog.isWatching_finish _ receipt none
    | tracer =>
      rw [if_pos rfl]
      exact Watchdog.isWatching_finish _ receipt _
  rw [finalize, bind_of_ok hgeneral, bind_of_ok (get_apply m₁), bind_of_ok htracer]
  cases (m.pair.perform (fun _ => balance) .general (.finish receipt none)).1 with
  | error fault => exact ⟨some fault, m₂, rfl, hrest⟩
  | ok _ =>
    cases (m₁.pair.perform _ .tracer (.finish receipt (some m₁.log.toJson))).1 with
    | error fault => exact ⟨some fault, m₂, rfl, hrest⟩
    | ok _ => exact ⟨none, m₂, rfl, hrest⟩

/-! ### Arming -/

/-- How a watchdog stays armed for the transaction after its execution. -/
inductive LeavesArmed (host : Host) (tx : Transaction) (kind : WatchKind) (m : Machine φ) : Prop
  /-- The general watchdog could not be armed, and this one was armed for the transaction before. -/
  | generalUnreadable {fault : Unreadable} {m₁ : Machine φ}
      (hgeneral : watchdog .general (.watch tx) m = (.ok (.error fault), m₁))
      (hwatching : (m.pair.get kind).isWatching tx.hash = true)
  /-- The tracer watchdog is this one; it could not be armed, and was armed for the transaction
  before. -/
  | tracerUnreadable {answer : Bool} {fault : Unreadable} {m₁ m₂ : Machine φ}
      (hgeneral : watchdog .general (.watch tx) m = (.ok (.ok answer), m₁))
      (htracer : watchdog .tracer (.watch tx) m₁ = (.ok (.error fault), m₂))
      (hkind : kind = .tracer)
      (hwatching : (m.pair.get kind).isWatching tx.hash = true)
  /-- The pair was armed, and the run left more gas than the transaction had. -/
  | overspent {m₁ m₂ : Machine φ} {outcome : Outcome} (harm : arm tx m = (.ok (), m₁))
      (hwatching : (m₁.pair.get kind).isWatching tx.hash = true)
      (hrun : host.runRoot tx m₁ = (.ok outcome, m₂)) (hgas : tx.gasLimit < outcome.gasLeft)

section

variable {m₁ m₂ : Machine φ} {fault : Unreadable} {answer : Bool}

/-- A watchdog that could not be armed leaves the pair as it was. -/
theorem get_pair_of_watch_error {kind : WatchKind}
    (h : watchdog kind (.watch tx) m = (.ok (.error fault), m₁)) (kind' : WatchKind) :
    m₁.pair.get kind' = m.pair.get kind' := by
  obtain ⟨balance, store, happly⟩ := watchdog_apply kind (.watch tx) m
  rw [happly, Prod.mk.injEq] at h
  obtain ⟨hanswer, rfl⟩ := h
  exact WatchPair.get_watch_of_error (Except.ok.inj hanswer) kind'

theorem arm_of_ok {answer' : Bool}
    (hgeneral : watchdog .general (.watch tx) m = (.ok (.ok answer), m₁))
    (htracer : watchdog .tracer (.watch tx) m₁ = (.ok (.ok answer'), m₂)) :
    arm tx m = (.ok (), m₂) := by
  rw [arm, bind_of_ok hgeneral]
  exact bind_of_ok htracer _

/-- Without the general watchdog the tracer is not armed either. -/
theorem arm_of_general_error
    (hgeneral : watchdog .general (.watch tx) m = (.ok (.error fault), m₁)) :
    arm tx m = (.error (.failed fault.failure), m₁) := by
  exact bind_of_ok hgeneral _

/-- Without the tracer the general watchdog is disarmed again, and the tracer is as it was. -/
theorem arm_of_tracer_error
    (hgeneral : watchdog .general (.watch tx) m = (.ok (.ok answer), m₁))
    (htracer : watchdog .tracer (.watch tx) m₁ = (.ok (.error fault), m₂)) :
    ∃ m₃, arm tx m = (.error (.failed fault.failure), m₃) ∧
      (m₃.pair.get .general).isWatching tx.hash = false ∧
      m₃.pair.get .tracer = m.pair.get .tracer := by
  obtain ⟨balance, store, hdisarm⟩ := watchdog_apply .general (.disarm tx.hash) m₂
  generalize hm₃ : { m₂ with store, pair := _ } = m₃ at hdisarm
  refine ⟨m₃, ?_, ?general, ?tracer⟩
  · rw [arm, bind_of_ok hgeneral]
    dsimp only
    rw [bind_of_ok htracer]
    exact bind_of_ok hdisarm _
  case general =>
    subst hm₃
    dsimp only
    rw [WatchPair.get_perform, if_pos rfl]
    exact Watchdog.isWatching_disarm _ tx.hash
  case tracer =>
    obtain ⟨balance', store', harmed⟩ := watchdog_apply .general (.watch tx) m
    rw [hgeneral, Prod.mk.injEq] at harmed
    obtain ⟨-, rfl⟩ := harmed
    subst hm₃
    dsimp only
    rw [WatchPair.get_perform, if_neg (by decide), get_pair_of_watch_error htracer]
    dsimp only
    rw [WatchPair.get_perform, if_neg (by decide)]

/-- **Once the pair is armed, only the gas decides.** -/
theorem leavesArmed_iff {kind : WatchKind} (harm : arm tx m = (.ok (), m₁)) :
    host.LeavesArmed tx kind m ↔
      (m₁.pair.get kind).isWatching tx.hash = true ∧
        ∃ outcome m₂, host.runRoot tx m₁ = (.ok outcome, m₂) ∧ tx.gasLimit < outcome.gasLeft := by
  constructor
  · intro h
    cases h with
    | generalUnreadable hgeneral =>
      rw [arm_of_general_error hgeneral] at harm
      cases harm
    | tracerUnreadable hgeneral htracer =>
      obtain ⟨m₃, harm', -, -⟩ := arm_of_tracer_error hgeneral htracer
      rw [harm'] at harm
      cases harm
    | overspent harm' hwatching hrun hgas =>
      rw [harm] at harm'
      cases harm'
      exact ⟨hwatching, _, _, hrun, hgas⟩
  · rintro ⟨hwatching, outcome, m₂, hrun, hgas⟩
    exact .overspent harm hwatching hrun hgas

/-- **Where the pair cannot be armed**, `LeavesArmed` says which watchdogs are armed after that. -/
theorem isWatching_arm_iff {stop : Stop} (harm : arm tx m = (.error stop, m₁)) (kind : WatchKind) :
    (m₁.pair.get kind).isWatching tx.hash = true ↔ host.LeavesArmed tx kind m := by
  have hfailed (m' : Machine φ) : arm tx m ≠ (.ok (), m') := by
    rw [harm]
    rintro ⟨⟩
  obtain ⟨_, _, hgeneral⟩ := watchdog_apply .general (.watch tx) m
  cases hanswer : (m.pair.perform _ .general (.watch tx)).1 with
  | error fault =>
    rw [hanswer] at hgeneral
    rw [arm_of_general_error hgeneral] at harm
    cases harm
    rw [get_pair_of_watch_error hgeneral]
    refine ⟨.generalUnreadable hgeneral, fun h => ?_⟩
    cases h with
    | generalUnreadable _ hwatching | tracerUnreadable _ _ _ hwatching => exact hwatching
    | overspent harm' => exact (hfailed _ harm').elim
  | ok answer =>
    rw [hanswer] at hgeneral
    generalize hm' : { m with store := _, pair := _ } = m' at hgeneral
    obtain ⟨_, _, htracer⟩ := watchdog_apply .tracer (.watch tx) m'
    cases hanswer' : (m'.pair.perform _ .tracer (.watch tx)).1 with
    | ok answer' =>
      rw [hanswer'] at htracer
      exact (hfailed _ (arm_of_ok hgeneral htracer)).elim
    | error fault =>
      rw [hanswer'] at htracer
      obtain ⟨m₃, harm', hrest, hkept⟩ := arm_of_tracer_error hgeneral htracer
      rw [harm'] at harm
      cases harm
      refine ⟨fun h => ?_, fun h => ?_⟩
      · cases kind with
        | general => exact (Bool.eq_false_iff.1 hrest h).elim
        | tracer =>
          rw [hkept] at h
          exact .tracerUnreadable hgeneral htracer rfl h
      · cases h with
        | generalUnreadable hgeneral' =>
          rw [hgeneral] at hgeneral'
          cases hgeneral'
        | tracerUnreadable _ _ hkind hwatching =>
          subst hkind
          rwa [hkept]
        | overspent harm' => exact (hfailed _ harm').elim

end

/-! ### Ending -/

theorem keeps_spares_abandon (tx : Transaction) (failure : Failure) :
    Keeps (φ := φ) (Spares tx.hash) (abandon tx failure) := by
  refine .bind (fun m kind => ?_) fun _ => .bind (keeps_spares_finalize rfl) fun _ => .fail failure
  obtain ⟨m', h, hattends⟩ := markThrown_apply tx.hash m
  rw [h]
  exact (hattends kind).spares

theorem keeps_spares_conclude (tx : Transaction) (outcome : Outcome) :
    Keeps (φ := φ) (Spares tx.hash) (conclude tx outcome) := by
  refine .bind (fun m kind => ?_) fun _ => ?_
  · obtain ⟨m', h, hattends⟩ := flagResult_apply tx.hash outcome.result m
    rw [h]
    exact (hattends kind).spares
  · cases Checked.sub tx.gasLimit outcome.gasLeft with
    | none => exact .fail _
    | some gasUsed =>
      refine .bind (keeps_spares_finalize rfl) fun fault? => ?_
      cases fault? with
      | some fault => exact .fail _
      | none => exact .pure _

theorem keeps_spares_execute (hbound : host.env.txHash = some tx.hash) :
    Keeps (φ := φ) (Spares tx.hash) (host.execute tx) := by
  have hrun : Keeps (φ := φ) (Spares tx.hash) (host.runRoot tx) :=
    fun m kind => (keeps_attends_runRoot hbound tx m kind).spares
  unfold execute
  rw [if_pos hbound]
  refine .bind (keeps_spares_arm tx) fun _ => .bind (.attempt hrun) fun ended => ?_
  cases ended with
  | error failure => exact keeps_spares_abandon tx failure
  | ok outcome => exact keeps_spares_conclude tx outcome

/-- A failed run leaves no watchdog armed. -/
theorem isWatching_abandon (tx : Transaction) (failure : Failure) (m : Machine φ)
    (kind : WatchKind) :
    ((abandon tx failure m).2.pair.get kind).isWatching tx.hash = false := by
  obtain ⟨m₁, hthrown, -⟩ := markThrown_apply tx.hash m
  obtain ⟨fault?, m₂, hfinal, hrest⟩ := isWatching_finalize {
    txHash := tx.hash, succeeded := false
    gasUsed := tx.gasLimit, cumulativeGasUsed := tx.gasLimit } m₁
  rw [abandon, bind_of_ok hthrown, bind_of_ok hfinal]
  exact hrest kind

/-- An outcome leaves a watchdog armed if its gas does not add up, and then as it was. -/
theorem isWatching_conclude (tx : Transaction) (outcome : Outcome) (m : Machine φ)
    (kind : WatchKind) :
    ((conclude tx outcome m).2.pair.get kind).isWatching tx.hash = true ↔
      (m.pair.get kind).isWatching tx.hash = true ∧ tx.gasLimit < outcome.gasLeft := by
  obtain ⟨m₁, hflag, hattends⟩ := flagResult_apply tx.hash outcome.result m
  rw [conclude, bind_of_ok hflag]
  cases hgas : Checked.sub tx.gasLimit outcome.gasLeft with
  | none =>
    -- the execution ends here, without finalizing
    show (m₁.pair.get kind).isWatching tx.hash = true ↔ _
    rw [hattends.isWatching]
    exact ⟨fun h => ⟨h, Checked.sub_eq_none_iff.1 hgas⟩, And.left⟩
  | some gasUsed =>
    obtain ⟨fault?, m₂, hfinal, hrest⟩ := isWatching_finalize (outcome.receipt tx.hash gasUsed) m₁
    have hle : ¬tx.gasLimit < outcome.gasLeft := by
      rw [← Checked.sub_eq_none_iff, hgas]
      exact Option.some_ne_none _
    have hrest : (m₂.pair.get kind).isWatching tx.hash = false := hrest kind
    dsimp only
    rw [bind_of_ok hfinal]
    cases fault? with
    | some fault =>
      show (m₂.pair.get kind).isWatching tx.hash = true ↔ _
      simp only [hrest, Bool.false_eq_true, hle, and_false]
    | none =>
      show (m₂.pair.get kind).isWatching tx.hash = true ↔ _
      simp only [hrest, Bool.false_eq_true, hle, and_false]

/-! ### The main statement -/

/-- **A watchdog outlives its transaction exactly as `LeavesArmed` says**, and the sessions of all
other transactions outlive it with everything in them. -/
theorem execute_isWatching_iff (hbound : host.env.txHash = some tx.hash) (m : Machine φ)
    (hreturns : (host.execute tx m).1 ≠ .error .exhausted) (kind : WatchKind) :
    (((host.execute tx m).2.pair.get kind).isWatching tx.hash = true ↔
        host.LeavesArmed tx kind m) ∧
      ∀ session, (m.pair.get kind).session = some session → session.txHash ≠ tx.hash →
        ((host.execute tx m).2.pair.get kind).session = some session := by
  refine ⟨?_, keeps_spares_execute hbound m kind⟩
  rw [execute, if_pos hbound, bind_apply] at hreturns ⊢
  rcases harm : arm tx m with ⟨stop | _, m₁⟩
  · exact isWatching_arm_iff harm kind
  rw [leavesArmed_iff harm]
  rw [harm] at hreturns
  dsimp only at hreturns ⊢
  have hattends := keeps_attends_runRoot hbound tx m₁
  rw [bind_apply, attempt_apply] at hreturns ⊢
  rcases hrun : host.runRoot tx m₁ with ⟨(failure | message | _) | outcome, m₂⟩
  all_goals rw [hrun] at hattends hreturns
  · -- a failed run is finalized
    have hrest : ((abandon tx failure m₂).2.pair.get kind).isWatching tx.hash = false :=
      isWatching_abandon tx failure m₂ kind
    refine ⟨fun h => (Bool.eq_false_iff.1 hrest h).elim, ?_⟩
    rintro ⟨-, outcome, m', hended, -⟩
    cases hended
  · -- the guard around the run catches panics
    exact (neverPanics_runRoot tx m₁ _ (by rw [hrun]) message rfl).elim
  · exact (hreturns rfl).elim
  · refine (isWatching_conclude tx outcome m₂ kind).trans ?_
    rw [hattends.isWatching]
    refine ⟨fun ⟨hwatching, hgas⟩ => ⟨hwatching, outcome, m₂, rfl, hgas⟩, ?_⟩
    rintro ⟨hwatching, outcome', m', hended, hgas⟩
    cases hended
    exact ⟨hwatching, hgas⟩

/-- A host whose frames each leave one unit of gas more than they had. -/
def ofMinting : Host where
  env := { txHash := some 7 }
  rules := ChainConfig.rules (.allForksActive 1) 0
  interpreter := fun frame _ => .done { result := .ok [], gasLeft := frame.gasRemaining + 1 }

/-- A machine with both watchdogs at rest and code in one account. -/
def watched : Machine NoFaults where
  store := { ledger := Ledger.seed {} 9 { code := [1] }, faults := {} }
  pair := .enabled (.dispatcher [])

/-- A call of that account. -/
def callOfNine : Transaction where
  hash := 7
  sender := 1
  kind := .call 9
  nonce := 0
  value := 0
  gasLimit := 10
  gasPrice := 0
  data := []

theorem execute_isWatching_minting :
    ((ofMinting.execute callOfNine watched).2.pair.get .general).isWatching 7 = true ∧
      ofMinting.LeavesArmed callOfNine .general watched := by
  have hended : (ofMinting.execute callOfNine watched).1 =
      .error (.failed (.internal .underflow)) := by
    decide +kernel
  have hwatching :
      ((ofMinting.execute callOfNine watched).2.pair.get .general).isWatching 7 = true := by
    decide +kernel
  have hreturns : (ofMinting.execute callOfNine watched).1 ≠ .error .exhausted := by
    rw [hended]
    decide
  have hiff := @execute_isWatching_iff NoFaults _ ofMinting callOfNine rfl watched hreturns .general
  exact ⟨hwatching, hiff.1.1 hwatching⟩

end Host

end CallWatch
