import CallWatch.Proofs.Ledger.Value
import CallWatch.Proofs.Machine.Rollback

/-!
# Conservation of value

No primitive changes the sum of all balances, however it ends and whatever is nested in it, and if
that sum is in the range of a word, the ledger never has to refuse a debit or a credit on the way
(`Host.dispatch_conserves`).

Value moves in one place, the transfer of `Host.enterFrame`.  Between the check that the payer can
afford it and the transfer, accounts are created and replaced and a nonce is raised, but no balance
changes (`Host.Calm`).  A transfer that the layer of faults breaks off halfway is taken back with
the rest of the setup.
-/

namespace CallWatch

open Run

namespace Host

variable {φ γ : Type} {view : φ → γ} {host : Host} {m m' : Machine φ}

/-! ### Two preorders -/

/-- No balance is another one, and the layer of faults heard nothing. -/
structure Calm (view : φ → γ) (m m' : Machine φ) : Prop where
  forward : m.store.ledger.Precedes m'.store.ledger
  value : m.store.ledger.SameValue m'.store.ledger
  heard : view m'.store.faults = view m.store.faults

instance : IsPreorder (Machine φ) (Calm view) where
  refl _ := ⟨.refl _, .refl _, rfl⟩
  trans _ _ _ h h' := ⟨h.forward.trans h'.forward, h.value.trans h'.value, h'.heard.trans h.heard⟩

/-- The sum of all balances is the same, and the layer of faults heard nothing, if that sum is in
range. -/
structure Conserves (view : φ → γ) (m m' : Machine φ) : Prop where
  forward : m.store.ledger.Precedes m'.store.ledger
  total : m'.store.ledger.total = m.store.ledger.total
  heard : m.store.ledger.total < 2 ^ 256 → view m'.store.faults = view m.store.faults

instance : IsPreorder (Machine φ) (Conserves view) where
  refl _ := ⟨.refl _, rfl, fun _ => rfl⟩
  trans _ _ _ h h' := {
    forward := h.forward.trans h'.forward
    total := h'.total.trans h.total
    heard hroom := (h'.heard (h.total ▸ hroom)).trans (h.heard hroom) }

theorem Calm.conserves (h : Calm view m m') : Conserves view m m' :=
  ⟨h.forward, h.value.total, fun _ => h.heard⟩

/-! ### Computations that pay -/

/-- Where the payer can afford the amount, the computation keeps the total unless it fails, and no
fault of the ledger is heard in it, if the total is in range. -/
def Pays (view : φ → γ) (payer : Address) (amount : Word) {α : Type} (x : Run φ α) : Prop :=
  ∀ m, amount ≤ (m.store.ledger.accounts.get payer).balance →
    ((∀ failure, (x m).1 ≠ .error (.failed failure)) →
        (x m).2.store.ledger.total = m.store.ledger.total) ∧
      (m.store.ledger.total < 2 ^ 256 → view (x m).2.store.faults = view m.store.faults)

section

variable {payer : Address} {amount : Word} {α β : Type} {x : Run φ α} {f : α → Run φ β}

theorem Pays.of_calm (hx : Keeps (Calm view) x) : Pays view payer amount x :=
  fun m _ => ⟨fun _ => (hx m).value.total, fun _ => (hx m).heard⟩

theorem Pays.after_calm (hx : Keeps (Calm view) x) (hf : ∀ a, Pays view payer amount (f a)) :
    Pays view payer amount (x >>= f) := by
  intro m hcovered
  have hcalm := hx m
  rw [bind_apply]
  rcases hxm : x m with ⟨stop | a, m₁⟩
  all_goals rw [hxm] at hcalm
  · exact ⟨fun _ => hcalm.value.total, fun _ => hcalm.heard⟩
  · -- nothing was moved so far, so the payer can still afford the amount
    obtain ⟨htotal, hheard⟩ := hf a m₁ (by rwa [hcalm.value.balance])
    rw [hcalm.value.total, hcalm.heard] at hheard
    exact ⟨fun hok => (htotal hok).trans hcalm.value.total, hheard⟩

theorem Pays.before_calm (hx : Pays view payer amount x) (hf : ∀ a, Keeps (Calm view) (f a)) :
    Pays view payer amount (x >>= f) := by
  intro m hcovered
  obtain ⟨htotal, hheard⟩ := hx m hcovered
  rw [bind_apply]
  rcases hxm : x m with ⟨stop | a, m₁⟩
  all_goals rw [hxm] at htotal hheard
  · exact ⟨fun hok => htotal fun failure h => hok failure (by cases h; rfl), hheard⟩
  · have hcalm := hf a m₁
    refine ⟨fun _ => ?_, fun hroom => hcalm.heard.trans (hheard hroom)⟩
    exact hcalm.value.total.trans (htotal fun _ h => (by cases h))

end

/-! ### Checking -/

variable [FaultModel φ] (hview : FaultModel.OnlyHears view)

include hview

theorem calm_perform (op : StoreOp) (hop : op.MovesNothing) (m : Machine φ) :
    Calm view m { m with store := (m.store.perform op).2 } where
  forward := Store.precedes_perform (.refl _) fun mark h => by
    rw [h] at hop
    exact hop.elim
  value := m.store.sameValue_perform hop
  heard := by
    obtain ⟨answer, hanswer, -⟩ := m.store.ledger.perform_of_movesNothing hop
    exact Store.view_perform hview hanswer

theorem keeps_calm_store {op : StoreOp} (hop : op.MovesNothing) : Keeps (Calm view) (store op) :=
  .store fun m => calm_perform hview op hop m

theorem keeps_calm_covers (a : Address) (amount : Word) :
    Keeps (Calm view) (Run.perform (.covers a amount)) := by
  refine .perform fun m => ?_
  have hread := calm_perform hview (.getBalance a) trivial m
  show Calm view m { m with store := (Store.follow _ (Procedure.bind (.done _) _)).2 }
  cases (m.store.perform (.getBalance a)).1 with
  | ok balance => exact hread
  | error fault => exact hread

theorem keeps_calm_refusal? (hcan : host.env.canTransfer = .covers) (caller : Address)
    (gas : UInt64) (value? : Option Word) :
    Keeps (Calm view) (host.refusal? caller gas value?) := by
  refine keeps_refusal? (fun a amount => ?_) _ _ _
  rw [hcan]
  exact keeps_calm_covers hview a amount

omit hview in
/-- **Who is not refused can pay.** -/
theorem covered_of_refusal?_eq_none (hcan : host.env.canTransfer = .covers) {caller : Address}
    {gas : UInt64} {value? : Option Word} (h : host.refusal? caller gas value? m = (.ok none, m')) :
    value?.getD 0 ≤ (m'.store.ledger.accounts.get caller).balance := by
  cases value? with
  | none => exact BitVec.le_def.2 (Nat.zero_le _)
  | some value =>
    rw [refusal?, bind_eq_ok_iff] at h
    obtain ⟨_, _, hget, h⟩ := h
    cases hget
    split at h
    · cases h
    split at h
    · cases h
    rw [hcan, bind_eq_ok_iff] at h
    obtain ⟨isCovered, m₁, hcovers, h⟩ := h
    cases isCovered with
    | false => cases h
    | true =>
      cases h
      rw [perform_apply, Prod.mk.injEq, ofStore_eq_ok_iff] at hcovers
      obtain ⟨hanswer, rfl⟩ := hcovers
      rw [show (m.store.follow _).2.ledger = _ from Procedure.onlyReads_covers caller value m.store]
      exact of_decide_eq_true (Store.follow_covers hanswer).symm

/-! ### Paying -/

theorem pays_transfer (payer receiver : Address) (amount : Word) :
    Pays view payer amount (Run.perform (.transfer payer receiver amount)) := by
  intro m hcovered
  obtain ⟨htotal, hheard⟩ := Store.follow_transfer hview m.store receiver hcovered
  rw [perform_apply]
  refine ⟨fun hok => htotal ?_, hheard⟩
  cases hanswer : (m.store.follow (.transfer payer receiver amount)).1 with
  | ok _ => rfl
  | error fault =>
    dsimp only at hok
    rw [hanswer] at hok
    exact (hok _ rfl).elim

theorem pays_enterFrame (htransfer : host.env.transfer = .transfer) (account : Address)
    (p : Primitive) :
    Pays view p.payer (p.value?.getD 0) (host.enterFrame account p) := by
  have hstore (op : StoreOp) (hop : op.IsSetup) : Keeps (Calm view) (store op) :=
    keeps_calm_store hview hop.movesNothing
  cases p with
  | call caller target input gas value =>
    refine .after_calm (keeps_ensureTarget hstore target value) fun isThere => ?_
    split
    · rw [htransfer]
      refine .before_calm (pays_transfer hview caller target value) fun _ => ?_
      exact .bind (hstore _ trivial) fun _ => .bind .get fun _ => .pure _
    · exact .of_calm (.pure _)
  | callCode | delegateCall =>
    exact .of_calm (.bind (hstore _ trivial) fun _ => .bind .get fun _ => .pure _)
  | create caller code gas value =>
    refine .after_calm (hstore _ trivial) fun _ => ?_
    have hpays : Pays view caller value (do
        Run.perform (host.env.transfer caller account value)
        return some {
          caller, account, codeAddress := account, code, value, calldata := []
          gasLimit := gas, gasRemaining := gas, depth := (← Run.get).depth : Frame }) := by
      rw [htransfer]
      exact .before_calm (pays_transfer hview caller account value) fun _ =>
        .bind .get fun _ => .pure _
    dsimp only
    split
    · exact .after_calm (hstore _ trivial) fun _ => hpays
    · exact hpays

/-! ### Setting up -/

variable (hφ : FaultModel.SparesReverts φ) (hcan : host.env.canTransfer = .covers)
variable (htransfer : host.env.transfer = .transfer)

include hφ hcan htransfer

theorem conserves_prepare {p : Primitive} (account : Address)
    (hcovered : p.value?.getD 0 ≤ (m.store.ledger.accounts.get p.payer).balance) :
    Conserves view m (host.prepare account p m).2 ∧
      ∀ mark frame, (host.prepare account p m).1 = .ok (.ready mark frame) →
        mark = m.store.ledger.snapshot := by
  have hforward :=
    keeps_journaled_enterFrame (Environment.isTame_of_default hcan htransfer) account p m
  obtain ⟨htotal, hheard⟩ := pays_enterFrame hview htransfer account p m hcovered
  rw [prepare, bind_of_ok (snapshot_apply m), bind_apply]
  rcases undoOnFailure_cases hφ hforward with ⟨hsame, hno⟩ | ⟨failure, -, hundone⟩
  · have hconserves : Conserves view m (host.enterFrame account p m).2 :=
      ⟨hforward, htotal hno, hheard⟩
    rw [hsame]
    rcases he : host.enterFrame account p m with ⟨stop | _ | frame, m₁⟩
    all_goals rw [he] at hconserves
    · exact ⟨hconserves, fun _ _ h => by cases h⟩
    · exact ⟨hconserves, fun _ _ h => by cases h⟩
    · refine ⟨⟨hconserves.forward, hconserves.total, hconserves.heard⟩, fun mark frame h => ?_⟩
      cases h
      rfl
  · -- the value is back where it was, and the revert went through
    rw [hundone]
    refine ⟨⟨.refl _, rfl, fun hroom => (hview _ _).trans (hheard hroom)⟩, fun mark frame h => ?_⟩
    cases h

/-- **Setting up a primitive keeps the total**, and so does what it did before its mark. -/
theorem conserves_setUp (p : Primitive) (m : Machine φ) :
    ∃ m₀, Conserves view m m₀ ∧ Conserves view m₀ (host.setUp p m).2 ∧
      ∀ mark frame, (host.setUp p m).1 = .ok (.ready mark frame) →
        mark = m₀.store.ledger.snapshot := by
  have hrefusal := keeps_calm_refusal? hview hcan p.payer p.gas p.value? m
  rw [setUp, bind_apply]
  rcases hr : host.refusal? p.payer p.gas p.value? m with ⟨stop | _ | outcome, m₁⟩
  all_goals rw [hr] at hrefusal
  · exact ⟨m, refl_of _ m, hrefusal.conserves, fun _ _ h => by cases h⟩
  · have htake := keeps_takeAccount (fun _ hop => keeps_calm_store hview hop.movesNothing) p m₁
    have hcovered := covered_of_refusal?_eq_none hcan hr
    dsimp only
    rw [bind_apply]
    rcases ht : takeAccount p m₁ with ⟨stop | account, m₂⟩
    all_goals
      rw [ht] at htake
      have hcalm := trans_of (Calm view) hrefusal htake
    · exact ⟨m, refl_of _ m, hcalm.conserves, fun _ _ h => by cases h⟩
    · -- taking the account raised a nonce at most, so the payer can still afford the amount
      rw [← htake.value.balance] at hcovered
      obtain ⟨hprepare, hmark⟩ := conserves_prepare hview hφ hcan htransfer account hcovered
      exact ⟨m₂, hcalm.conserves, hprepare, hmark⟩
  · exact ⟨m, refl_of _ m, hrefusal.conserves, fun _ _ h => by cases h⟩

/-! ### Running -/

/-- Every step of a run keeps the total. -/
theorem respects_conserves : host.Respects Query.IsConfined (Conserves (φ := φ) view) := by
  refine .of_store ?alone ?read ?setState ?setCode ?setUp ?mark ?rewind
  case alone =>
    intro m m' h
    refine ⟨?_, ?_, fun _ => ?_⟩
    all_goals rw [h]
    exact .refl _
  case read =>
    intro op hop m
    exact (calm_perform hview op hop.movesNothing m).conserves
  case setState =>
    exact fun a key value m => (calm_perform hview (.setState a key value) trivial m).conserves
  case setCode => exact fun a code m => (calm_perform hview (.setCode a code) trivial m).conserves
  case setUp =>
    intro p m
    obtain ⟨m₀, hbefore, hafter, -⟩ := conserves_setUp hview hφ hcan htransfer p m
    exact trans_of _ hbefore hafter
  case mark =>
    intro p m m' mark frame h
    obtain ⟨m₀, hbefore, hafter, hmark⟩ := conserves_setUp hview hφ hcan htransfer p m
    rw [h] at hafter hmark
    exact ⟨m₀, hmark mark frame rfl, hbefore, hafter⟩
  case rewind =>
    intro m₀ m h
    rw [revert_apply hφ h.forward]
    exact ⟨.refl _, rfl, fun hroom => (hview _ _).trans (h.heard hroom)⟩

end Host

/-- **Primitives conserve value.**  Whatever the layer of faults refuses, except for reverts, and
however the primitive ends, the sum of all balances is the one before it.  If that sum is in the
range of a word, no fault of the ledger comes up in the whole run, neither an overflow nor an
underflow of a balance. -/
theorem Host.dispatch_conserves {host : Host} (hcan : host.env.canTransfer = .covers)
    (htransfer : host.env.transfer = .transfer) (hprograms : host.interpreter.IsConfined)
    (p : Primitive) :
    (∀ {φ : Type} [FaultModel φ], FaultModel.SparesReverts φ → ∀ m : Machine φ,
        (host.dispatch p m).2.store.ledger.total = m.store.ledger.total) ∧
      ∀ {φ : Type} [FaultModel φ], FaultModel.SparesReverts φ → ∀ m : Machine (Recorded φ),
        m.store.ledger.total < 2 ^ 256 →
          (host.dispatch p m).2.store.faults.heard = m.store.faults.heard := by
  refine ⟨fun {φ} _ hφ m => ?_, fun {φ} _ hφ m hroom => ?_⟩
  · have hdeaf : FaultModel.OnlyHears fun _ : φ => () := fun _ _ => rfl
    exact ((respects_conserves hdeaf hφ hcan htransfer).dispatch hprograms p m).total
  · have hrecorded := FaultModel.onlyHears_heard φ
    have hrespects := respects_conserves hrecorded hφ.recorded hcan htransfer
    exact (hrespects.dispatch hprograms p m).heard hroom

/-- Every frame pays two units back to its caller, and then fails. -/
def Interpreter.refunding : Interpreter := fun frame _ =>
  .ask (.dispatch (.call frame.account frame.caller [] 5 2)) fun _ =>
    .done { result := .error .reverted, gasLeft := frame.gasRemaining }

namespace Host

/-- A host whose frames pay back what they are paid. -/
def ofRefunding : Host where
  rules := ChainConfig.rules (.allForksActive 1) 0
  interpreter := .refunding

/-- A machine with value in two accounts, one of which has code. -/
def funded : Machine (Recorded NoFaults) where
  store := {
    ledger := (Ledger.seed {} 1 { balance := 7 }).seed 9 { balance := 5, code := [1] }
    faults := { faults := {} } }
  pair := .disabled

theorem dispatch_conserves_refund :
    (ofRefunding.dispatch (.call 1 9 [] 10 3) funded).2.store.ledger.total = 12 ∧
      (ofRefunding.dispatch (.call 1 9 [] 10 3) funded).2.store.faults.heard = [] := by
  have htotal : funded.store.ledger.total = 12 := by decide +kernel
  have hprograms : Interpreter.refunding.IsConfined := fun _ _ => ⟨trivial, fun _ => trivial⟩
  obtain ⟨hconserves, hheard⟩ :=
    @dispatch_conserves ofRefunding rfl rfl hprograms (.call 1 9 [] 10 3)
  refine ⟨(hconserves FaultModel.noFaults_sparesReverts.recorded funded).trans htotal, ?_⟩
  exact hheard FaultModel.noFaults_sparesReverts funded (by rw [htotal]; decide)

end Host

end CallWatch
