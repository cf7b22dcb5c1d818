import CallWatch.Proofs.Ledger.Value
import CallWatch.Proofs.Machine.Release
import CallWatch.Proofs.Machine.Rollback

/-!
# What failed transactions leave

A transaction can fail before its run, in it, and after it.  If it fails before or in its run, the
accounts and the journal are those from before, apart from the nonce of the sender; the watchdogs
that are armed and finalized around the run only read.  After the run there are two ways to fail,
more gas left than the limit and a watchdog that cannot be finalized, and they take nothing back: a
run that had stood before stays in place (`Host.failed_execute`).
-/

namespace CallWatch

open Run

/-- What a transaction without effect may leave of a ledger: the ledger itself, or the ledger with
the nonce of the sender raised by one. -/
inductive Transaction.Leaves (tx : Transaction) (l : Ledger) : Ledger → Prop
  | same : Leaves tx l l
  | raised {next : UInt64} (hnext : next.toNat = (l.accounts.get tx.sender).nonce.toNat + 1) :
      Leaves tx l (l.setNonce tx.sender next)

/-- No balance is different in what such a transaction leaves. -/
theorem Transaction.Leaves.balance_eq {tx : Transaction} {l l' : Ledger} (h : tx.Leaves l l')
    (a : Address) : (l'.accounts.get a).balance = (l.accounts.get a).balance := by
  cases h with
  | same => rfl
  | raised =>
    rw [Ledger.setNonce, Ledger.get_write]
    split
    · next ha => rw [← ha]
    · rfl

namespace Host

variable {φ : Type} [FaultModel φ] {host : Host} {tx : Transaction} {m m' : Machine φ}

/-! ### Around the run -/

section

variable {R : Machine φ → Machine φ → Prop} [IsPreorder (Machine φ) R]
  (hwatchdog : ∀ kind op, Keeps R (watchdog kind op))

include hwatchdog

theorem keeps_markThrown (hash : Word) : Keeps R (markThrown hash) :=
  .bind (hwatchdog _ _) fun _ => hwatchdog _ _

theorem keeps_finalize (receipt : Receipt) : Keeps R (finalize receipt) := by
  refine .bind (hwatchdog _ _) fun general => .bind .get fun before => ?_
  refine .bind (hwatchdog _ _) fun tracer => ?_
  split <;> exact .pure _

/-- Arming keeps whatever watchdog operations keep. -/
theorem keeps_arm (tx : Transaction) : Keeps R (arm tx) := by
  refine .bind (hwatchdog _ _) fun general => ?_
  cases general with
  | error fault => exact .fail _
  | ok _ =>
    refine .bind (hwatchdog _ _) fun tracer => ?_
    cases tracer with
    | ok _ => exact .pure _
    | error fault => exact .bind (hwatchdog _ _) fun _ => .fail _

/-- So do both ways to end a transaction. -/
theorem keeps_abandon (tx : Transaction) (failure : Failure) : Keeps R (abandon tx failure) :=
  .bind (keeps_markThrown hwatchdog _) fun _ =>
    .bind (keeps_finalize hwatchdog _) fun _ => .fail failure

theorem keeps_flagResult (hash : Word) (result : Result) : Keeps R (flagResult hash result) := by
  unfold flagResult
  split
  · exact .pure ()
  · exact keeps_markThrown hwatchdog hash

theorem keeps_conclude (tx : Transaction) (outcome : Outcome) : Keeps R (conclude tx outcome) := by
  refine .bind (keeps_flagResult hwatchdog _ _) fun _ => ?_
  cases Checked.sub tx.gasLimit outcome.gasLeft with
  | none => exact .fail _
  | some gasUsed =>
    refine .bind (keeps_finalize hwatchdog _) fun fault? => ?_
    cases fault? with
    | some fault => exact .fail _
    | none => exact .pure _

end

theorem keeps_sameLedger_watchdog (kind : WatchKind) (op : WatchOp) :
    Keeps (φ := φ) SameLedger (watchdog kind op) := by
  refine .bind .get fun before => ?_
  -- what the pair answers does not reach the store
  cases (before.pair.get kind).reading? op with
  | none => exact .bind (.pure _) fun balance _ => rfl
  | some a =>
    refine .bind ?_ fun balance _ => rfl
    refine .bind (.ask fun m => m.store.ledger_perform_of_isRead _ trivial) fun answer => ?_
    cases answer <;> exact .pure _

theorem keeps_sameLedger_arm (tx : Transaction) : Keeps (φ := φ) SameLedger (arm tx) :=
  keeps_arm keeps_sameLedger_watchdog tx

theorem keeps_sameLedger_abandon (tx : Transaction) (failure : Failure) :
    Keeps (φ := φ) SameLedger (abandon tx failure) :=
  keeps_abandon keeps_sameLedger_watchdog tx failure

theorem keeps_sameLedger_conclude (tx : Transaction) (outcome : Outcome) :
    Keeps (φ := φ) SameLedger (conclude tx outcome) :=
  keeps_conclude keeps_sameLedger_watchdog tx outcome

/-! ### The run -/

/-- The primitive that a transaction runs. -/
def root (tx : Transaction) : Primitive :=
  match tx.kind with
  | .call target => .call tx.sender target tx.data tx.gasLimit tx.value
  | .create => .create tx.sender tx.data tx.gasLimit tx.value

theorem runRoot_call {target : Address} (hkind : tx.kind = .call target) :
    host.runRoot (φ := φ) tx =
      raisingNonce tx.sender fun _ => guarded (host.dispatch (root tx)) := by
  unfold runRoot root
  rw [hkind]
  rfl

theorem runRoot_create (hkind : tx.kind = .create) :
    host.runRoot (φ := φ) tx = guarded (host.dispatch (root tx)) := by
  unfold runRoot root
  rw [hkind]

omit [FaultModel φ] in
/-- A creation without effect is a transaction without effect. -/
theorem leaves_of_root (hkind : tx.kind = .create) {l l' : Ledger} (h : (root tx).Leaves l l') :
    tx.Leaves l l' := by
  cases h with
  | same => exact .same
  | raised hp hnext =>
    rw [root, hkind] at hp
    cases hp
    exact .raised hnext

section

variable (hφ : FaultModel.SparesReverts φ) (hooks : host.env.IsTame)
variable (hprograms : host.interpreter.Only Query.GoesForward)

include hφ hooks hprograms

/-- A guarded primitive that fails, or that panics, is undone. -/
theorem leaves_guarded (p : Primitive) (m : Machine φ)
    (h : p.Failed host.rules (guarded (host.dispatch p) m).1) :
    p.Leaves m.store.ledger (guarded (host.dispatch p) m).2.store.ledger := by
  have hrespects : host.Respects Query.GoesForward (Journaled (φ := φ)) :=
    respects_journaled_of_goesForward hφ hooks
  have hforward : Journaled m (host.dispatch p m).2 := hrespects.dispatch hprograms p m
  have hundone := undone_of_goesForward hφ hooks hprograms p m
  rw [guarded_apply] at h ⊢
  rcases hrun : host.dispatch p m with ⟨(failure | message | _) | outcome, m₁⟩
  all_goals rw [hrun] at h hforward hundone
  · exact hundone h
  · -- the panic is caught, and the mark is older than all that the primitive did
    dsimp only
    rw [bind_of_ok (revert_apply hφ hforward)]
    exact .same
  · exact hundone h
  · exact hundone h

/-- **A run that fails leaves at most a raised nonce**, and so does one whose outcome is a
failure. -/
theorem leaves_runRoot (m : Machine φ) (h : (root tx).Failed host.rules (host.runRoot tx m).1) :
    tx.Leaves m.store.ledger (host.runRoot tx m).2.store.ledger := by
  cases hkind : tx.kind with
  | create =>
    rw [runRoot_create hkind] at h ⊢
    exact leaves_of_root hkind (leaves_guarded hφ hooks hprograms (root tx) m h)
  | call target =>
    rw [runRoot_call hkind] at h ⊢
    rcases raisingNonce_cases tx.sender (fun _ => guarded (host.dispatch (root tx))) m with
      ⟨_, m₁, hfailed, hsame⟩ | ⟨next, m₁, hraised, hnext, hledger⟩
    · rw [hfailed, show m₁.store.ledger = _ from hsame]
      exact .same
    · -- the call itself is undone, the nonce that was raised before stays raised
      rw [hraised] at h ⊢
      have hleaves := leaves_guarded hφ hooks hprograms (root tx) m₁ h
      rw [hledger] at hleaves
      generalize (guarded (host.dispatch (root tx)) m₁).2.store.ledger = l at hleaves ⊢
      cases hleaves with
      | same => exact .raised hnext
      | raised hp =>
        rw [root, hkind] at hp
        cases hp

end

/-! ### The main statement -/

/-- The run of the transaction had an outcome that stands, and then the transaction failed for this
reason, with this ledger in place. -/
inductive FailsLate (host : Host) (tx : Transaction) (m : Machine φ) : Failure → Ledger → Prop
  /-- More gas was left than the limit of the transaction. -/
  | overspent {m₁ m₂ : Machine φ} {outcome : Outcome} (harm : arm tx m = (.ok (), m₁))
      (hrun : host.runRoot tx m₁ = (.ok outcome, m₂))
      (hstands : ¬(root tx).Failed host.rules (.ok outcome))
      (hgas : tx.gasLimit < outcome.gasLeft) :
      FailsLate host tx m (.internal .underflow) m₂.store.ledger
  /-- A watchdog could not be finalized. -/
  | unreadable {m₁ m₂ m₃ m₄ : Machine φ} {outcome : Outcome} {gasUsed : UInt64}
      {fault : Unreadable} (harm : arm tx m = (.ok (), m₁))
      (hrun : host.runRoot tx m₁ = (.ok outcome, m₂))
      (hstands : ¬(root tx).Failed host.rules (.ok outcome))
      (hflag : flagResult tx.hash outcome.result m₂ = (.ok (), m₃))
      (hfinal : finalize (outcome.receipt tx.hash gasUsed) m₃ = (.ok (some fault), m₄)) :
      FailsLate host tx m fault.failure m₂.store.ledger

/-- There are two reasons to fail after a run that had an outcome. -/
theorem reason_of_conclude {outcome : Outcome} {failure : Failure}
    (h : conclude tx outcome m = (.error (.failed failure), m')) :
    (tx.gasLimit < outcome.gasLeft ∧ failure = .internal .underflow) ∨
      ∃ gasUsed fault m₁ m₂, flagResult tx.hash outcome.result m = (.ok (), m₁) ∧
        finalize (outcome.receipt tx.hash gasUsed) m₁ = (.ok (some fault), m₂) ∧
        failure = fault.failure := by
  obtain ⟨m₁, hflag, -⟩ := flagResult_apply tx.hash outcome.result m
  rw [conclude, bind_of_ok hflag] at h
  cases hgas : Checked.sub tx.gasLimit outcome.gasLeft with
  | none =>
    rw [hgas] at h
    cases h
    exact .inl ⟨Checked.sub_eq_none_iff.1 hgas, rfl⟩
  | some gasUsed =>
    obtain ⟨fault?, m₂, hfinal, -⟩ := isWatching_finalize (outcome.receipt tx.hash gasUsed) m₁
    rw [hgas] at h
    dsimp only at h
    rw [bind_of_ok hfinal] at h
    cases fault? with
    | none => cases h
    | some fault =>
      cases h
      exact .inr ⟨gasUsed, fault, m₁, m', hflag, hfinal, rfl⟩

/-- **A transaction that fails leaves at most a raised nonce, or it failed late** and keeps all that
its run did.  The hooks are tame, programs do not go back in the store by themselves, and the layer
of faults spares reverts; nothing else is asked of the store, of the watchdogs or of the
programs. -/
theorem failed_execute (hφ : FaultModel.SparesReverts φ) (hooks : host.env.IsTame)
    (hprograms : host.interpreter.Only Query.GoesForward) {failure : Failure}
    (h : host.execute tx m = (.error (.failed failure), m')) :
    tx.Leaves m.store.ledger m'.store.ledger ∨ host.FailsLate tx m failure m'.store.ledger := by
  unfold execute at h
  by_cases hbound : host.env.txHash = some tx.hash
  · rw [if_pos hbound, bind_apply] at h
    rcases harm : arm tx m with ⟨stop | _, m₁⟩
    all_goals
      have harmed : m₁.store.ledger = m.store.ledger := (keeps_sameLedger_arm tx).rel_of_eq harm
      rw [harm] at h
    · cases h
      rw [harmed]
      exact .inl .same
    have hleaves : (root tx).Failed host.rules (host.runRoot tx m₁).1 →
        tx.Leaves m.store.ledger (host.runRoot tx m₁).2.store.ledger := by
      rw [← harmed]
      exact leaves_runRoot hφ hooks hprograms m₁
    dsimp only at h
    rw [bind_apply, attempt_apply] at h
    rcases hrun : host.runRoot tx m₁ with ⟨(failure' | message | _) | outcome, m₂⟩
    all_goals rw [hrun] at h hleaves
    · -- a run that failed is only told to the watchdogs
      have hended : SameLedger m₂ m' := (keeps_sameLedger_abandon tx failure').rel_of_eq h
      rw [show m'.store.ledger = _ from hended]
      exact .inl (hleaves (.stop failure'))
    · cases h
    · cases h
    · have hended : SameLedger m₂ m' := (keeps_sameLedger_conclude tx outcome).rel_of_eq h
      rw [show m'.store.ledger = _ from hended]
      by_cases hfailed : (root tx).Failed host.rules (.ok outcome)
      · exact .inl (hleaves hfailed)
      refine .inr ?_
      rcases reason_of_conclude h with ⟨hgas, rfl⟩ | ⟨gasUsed, fault, m₃, m₄, hflag, hfinal, rfl⟩
      · exact .overspent harm hrun hfailed hgas
      · exact .unreadable harm hrun hfailed hflag hfinal
  · rw [if_neg hbound] at h
    cases h
    exact .inl .same

/-- A host for a transaction that pays an account without code. -/
def ofPayment : Host where
  env := { txHash := some 7 }
  rules := ChainConfig.rules (.allForksActive 1) 0
  interpreter := .idle

/-- A machine whose store answers three readings of a balance: one for each watchdog that is armed,
and one for the payment. -/
def threeReadings : Machine (Sparing FaultPlan) where
  store := {
    ledger := (Ledger.seed {} 1 { balance := 5 }).seed 9 {}
    faults := { faults := { faults := [{ method := .getBalance, after := 3 }] } } }
  pair := .enabled (.dispatcher [])

/-- A payment of one unit. -/
def payment : Transaction where
  hash := 7
  sender := 1
  kind := .call 9
  nonce := 0
  value := 1
  gasLimit := 10
  gasPrice := 0
  data := []

/-- The first watchdog cannot be finalized, and the payment stays made. -/
theorem failed_execute_payment :
    ∃ fault : Unreadable,
      (ofPayment.execute payment threeReadings).1 = .error (.failed fault.failure) ∧
      ofPayment.FailsLate payment threeReadings fault.failure
        (ofPayment.execute payment threeReadings).2.store.ledger := by
  have hended : (ofPayment.execute payment threeReadings).1 =
      .error (.failed (Unreadable.failure ⟨"down"⟩)) := by
    decide +kernel
  have hpaid :
      ((ofPayment.execute payment threeReadings).2.store.ledger.accounts.get 9).balance ≠
        (threeReadings.store.ledger.accounts.get 9).balance := by
    decide +kernel
  refine ⟨_, hended, ?_⟩
  rcases hrun : ofPayment.execute payment threeReadings with ⟨answer, m'⟩
  rw [hrun] at hended hpaid
  obtain rfl : answer = .error (.failed _) := hended
  have hidle : ofPayment.interpreter.Only Query.GoesForward := fun _ _ => trivial
  have hleaves := failed_execute (FaultModel.sparing_sparesReverts FaultPlan)
    (Environment.isTame_of_default rfl rfl) hidle hrun
  exact hleaves.resolve_left fun h => hpaid (h.balance_eq 9)

end Host

end CallWatch
