import CallWatch.Proofs.Ledger.Nonce
import CallWatch.Proofs.Machine.Concluding
import CallWatch.Proofs.Machine.Logging
import CallWatch.Proofs.Machine.Nesting
import CallWatch.Proofs.Machine.Steadiness

/-!
# Nonces that are not lowered

Within a run, the nonce of an account is lowered in two ways only: a creation of that very account
puts a new one in its place, or a program writes the nonce by itself.  So in a run in which neither
happens the nonce is at the end at least what it was, whatever else is raised, created or taken back
(`Host.nests_keepsNonce`).

A primitive goes back no further than to where it took the account of its frame: a setup that fails
leaves the ledger from there (`Host.ledger_prepare`), and settling a frame lowers no nonce below the
one that was marked (`Host.nonceAt_settle`).  So what a creation raised when it took its account
stays raised (`Host.keepsNonce_of_taken`).
-/

namespace CallWatch

open CallTree Run

/-- The hooks of an environment move value, and lower no nonce. -/
structure Environment.SparesNonces (env : Environment) : Prop extends env.IsTame where
  nonces : ∀ sender receiver amount, (env.transfer sender receiver amount).SparesNonces

/-- The hooks of an environment that sets none spare nonces. -/
theorem Environment.sparesNonces_of_default {env : Environment} (hcan : env.canTransfer = .covers)
    (htransfer : env.transfer = .transfer) : env.SparesNonces where
  toIsTame := Environment.isTame_of_default hcan htransfer
  nonces := by rw [htransfer]; exact Procedure.sparesNonces_transfer

/-- Whether a request neither writes the nonce of `a` nor goes back in the store, except by the
primitives of the machine. -/
def Query.SparesNonce (a : Address) : Query → Prop
  | .store op => op.SparesNonce a
  | _ => True

theorem Query.SparesNonce.goesForward {a : Address} {q : Query} (h : q.SparesNonce a) :
    q.GoesForward := by
  cases q with
  | store op => cases op <;> trivial
  | _ => trivial

/-- What a primitive without effect leaves has no lower nonces. -/
theorem Primitive.Leaves.nonceAt_le {p : Primitive} {l l' : Ledger} (h : p.Leaves l l')
    (a : Address) : l.nonceAt a ≤ l'.nonceAt a := by
  cases h with
  | same => exact UInt64.le_refl _
  | @raised caller code gas value next hp hnext =>
    rw [Ledger.nonceAt_setNonce]
    split
    · next hcaller =>
      have hnonce : next.toNat = (l.nonceAt a).toNat + 1 := by rw [← hcaller, hnext]; rfl
      rw [UInt64.le_iff_toNat_le]
      omega
    · exact UInt64.le_refl _

namespace Host

variable {host : Host} {a : Address} {m m' : Machine NoFaults}

/-- The nonce of the account is not lower than before. -/
def SparesNonce (a : Address) (m m' : Machine NoFaults) : Prop :=
  m.store.ledger.nonceAt a ≤ m'.store.ledger.nonceAt a

instance : IsPreorder (Machine NoFaults) (SparesNonce a) where
  refl _ := UInt64.le_refl _
  trans _ _ _ h h' := UInt64.le_trans h h'

theorem keeps_sparesNonce_store {op : StoreOp} (hop : op.SparesNonce a) :
    Keeps (SparesNonce a) (store (φ := NoFaults) op) :=
  .store fun m => UInt64.le_of_eq (m.store.nonceAt_perform hop).symm

/-! ### How a setup ends -/

section

variable {φ : Type} [FaultModel φ] {m m' : Machine φ}

/-- **A frame that is not set up leaves no trace**: what was done towards it is taken back. -/
theorem ledger_prepare (hφ : FaultModel.SparesReverts φ) (hooks : host.env.IsTame)
    {account : Address} {p : Primitive} {ended : Except Stop Setup}
    (h : host.prepare account p m = (ended, m'))
    (hunready : ∀ mark frame, ended ≠ .ok (.ready mark frame)) :
    m'.store.ledger = m.store.ledger := by
  have hforward := keeps_journaled_enterFrame hooks account p m
  rw [prepare, bind_of_ok (snapshot_apply m), bind_apply] at h
  rcases undoOnFailure_cases hφ hforward with ⟨hsame, hno⟩ | ⟨failure, -, hundone⟩
  · rw [hsame] at h
    rcases he : host.enterFrame account p m with ⟨stop | _ | frame, m₁⟩
    all_goals rw [he] at h
    · obtain ⟨failure, -, rfl⟩ := host.onlyFails_enterFrame account p m stop (congrArg Prod.fst he)
      exact (hno failure (congrArg Prod.fst he)).elim
    · cases h
      exact sameLedger_of_enterFrame he
    · cases h
      exact (hunready _ _ rfl).elim
  · rw [hundone] at h
    cases h
    rfl

/-- A frame that is set up was entered on the marked ledger. -/
theorem entered_of_prepare {account : Address} {p : Primitive} {mark : Nat} {frame : Frame}
    (h : host.prepare account p m = (.ok (.ready mark frame), m')) :
    mark = m.store.ledger.snapshot ∧ frame.account = account ∧
      ∃ m₁, host.enterFrame account p m = (.ok (some frame), m₁) ∧ SameLedger m₁ m' := by
  rw [prepare, bind_of_ok (snapshot_apply m)] at h
  obtain ⟨frame?, m₁, hundo, h⟩ := bind_eq_ok_iff.1 h
  have hentered := eq_ok_of_undoOnFailure hundo
  cases frame? with
  | none => cases h
  | some frame =>
    cases h
    exact ⟨rfl, (account_depth_of_enterFrame hentered).1, m₁, hentered, rfl⟩

/-- A primitive is over before its account is taken, and then it leaves the ledger as a primitive
without effect may, or its frame is prepared on such a ledger. -/
theorem setUp_cases (hooks : host.env.IsTame) (p : Primitive) (m : Machine φ) :
    (p.Leaves m.store.ledger (host.setUp p m).2.store.ledger ∧
        ∀ mark frame, (host.setUp p m).1 ≠ .ok (.ready mark frame)) ∨
      ∃ account m₁, p.Leaves m.store.ledger m₁.store.ledger ∧
        host.setUp p m = host.prepare account p m₁ := by
  have hrefusal := keeps_sameLedger_refusal? hooks p.payer p.gas p.value? m
  rw [setUp, bind_apply]
  rcases hr : host.refusal? p.payer p.gas p.value? m with ⟨stop | _ | outcome, m₁⟩
  all_goals
    rw [hr] at hrefusal
    have hsame : m₁.store.ledger = m.store.ledger := hrefusal
  · exact .inl ⟨hsame ▸ .same, by simp⟩
  · have htake := leaves_takeAccount p m₁
    rw [hsame] at htake
    dsimp only
    rw [bind_apply]
    rcases ht : takeAccount p m₁ with ⟨stop | account, m₂⟩
    all_goals rw [ht] at htake
    · exact .inl ⟨htake, by simp⟩
    · exact .inr ⟨account, m₂, htake, rfl⟩
  · exact .inl ⟨hsame ▸ .same, by simp [pure_apply]⟩

/-- A primitive without a frame leaves the ledger as a primitive without effect may. -/
theorem leaves_of_unready (hφ : FaultModel.SparesReverts φ) (hooks : host.env.IsTame)
    {p : Primitive} {ended : Except Stop Setup} (h : host.setUp p m = (ended, m'))
    (hunready : ∀ mark frame, ended ≠ .ok (.ready mark frame)) :
    p.Leaves m.store.ledger m'.store.ledger := by
  rcases host.setUp_cases hooks p m with ⟨hleaves, -⟩ | ⟨account, m₁, hleaves, hprepare⟩
  · rwa [h] at hleaves
  · -- whatever was done after the account was taken is taken back
    rwa [← ledger_prepare hφ hooks (hprepare.symm.trans h) hunready] at hleaves

theorem exists_prepare_of_ready (hooks : host.env.IsTame) {p : Primitive} {mark : Nat}
    {frame : Frame} (h : host.setUp p m = (.ok (.ready mark frame), m')) :
    ∃ account m₁, p.Leaves m.store.ledger m₁.store.ledger ∧
      host.prepare account p m₁ = (.ok (.ready mark frame), m') := by
  rcases host.setUp_cases hooks p m with ⟨-, hunready⟩ | ⟨account, m₁, hleaves, hprepare⟩
  · exact (hunready mark frame (congrArg Prod.fst h)).elim
  · exact ⟨account, m₁, hleaves, hprepare.symm.trans h⟩

end

/-! ### Entering and leaving a frame -/

theorem keeps_sparesNonce_enterFrame (hooks : host.env.SparesNonces) {account : Address}
    {p : Primitive} (hp : p.IsCreation → account ≠ a) :
    Keeps (SparesNonce a) (host.enterFrame (φ := NoFaults) account p) := by
  have htransfer (sender receiver : Address) (amount : Word) :
      Keeps (SparesNonce a) (perform (φ := NoFaults) (host.env.transfer sender receiver amount)) :=
    .perform fun m => hooks.nonces sender receiver amount m.store a
  have hcode (b : Address) : Keeps (SparesNonce a) (store (φ := NoFaults) (.getCode b)) :=
    keeps_sparesNonce_store trivial
  cases p with
  | call caller target input gas value =>
    have hensure : Keeps (SparesNonce a) (host.ensureTarget (φ := NoFaults) target value) :=
      keeps_ensureTarget_of_missing host value (keeps_sparesNonce_store trivial) fun _ hmissing =>
        UInt64.le_of_eq (Ledger.nonceAt_createAccount_of_missing hmissing).symm
    refine .bind hensure fun isThere => ?_
    split
    · refine .bind (htransfer _ _ _) fun _ => .bind (hcode target) fun _ => ?_
      exact .bind .get fun _ => .pure _
    · exact .pure _
  | callCode | delegateCall => exact .bind (hcode _) fun _ => .bind .get fun _ => .pure _
  | create caller code gas value =>
    have hother : account ≠ a := hp trivial
    have hrest : Keeps (SparesNonce a) (do
        Run.perform (φ := NoFaults) (host.env.transfer caller account value)
        return some {
          caller, account, codeAddress := account, code, value, calldata := []
          gasLimit := gas, gasRemaining := gas, depth := (← Run.get).depth : Frame }) :=
      .bind (htransfer _ _ _) fun _ => .bind .get fun _ => .pure _
    refine .bind (keeps_sparesNonce_store hother) fun _ => ?_
    dsimp only
    split
    · exact .bind (keeps_sparesNonce_store hother) fun _ => hrest
    · exact hrest

/-- **Settling a frame does not lower a nonce below what was marked**, if the frame did not. -/
theorem nonceAt_settle {l : Ledger} (hl : l.Precedes m.store.ledger)
    (hnonce : l.nonceAt a ≤ m.store.ledger.nonceAt a) (p : Primitive) (frame : Frame)
    (ended : FrameEnd) :
    l.nonceAt a ≤ (host.settle p l.snapshot frame ended m).2.store.ledger.nonceAt a := by
  rcases host.ledger_settle_cases hl p frame ended with hback | hsame | ⟨-, code, hstored⟩
  · rw [hback]
    exact UInt64.le_refl _
  · rwa [hsame]
  · have hcode : (m.store.ledger.setCode frame.account code).nonceAt a =
        m.store.ledger.nonceAt a :=
      Ledger.nonceAt_write fun _ => rfl
    rwa [hstored, hcode]

/-! ### The run -/

/-- The earlier ledger can be gone back to, and if no frame of these trees was set up to create `a`,
the nonce of `a` is not lower. -/
structure KeepsNonce (a : Address) (calls : List CallTree) (m m' : Machine NoFaults) : Prop where
  journaled : Journaled m m'
  nonce : (∀ call ∈ allCalls calls, ¬call.Creates a) → SparesNonce a m m'

theorem KeepsNonce.of_eq {calls : List CallTree} (h : m'.store.ledger = m.store.ledger) :
    KeepsNonce a calls m m' := by
  refine ⟨?_, fun _ => ?_⟩
  · rw [Journaled, h]
    exact .refl _
  · rw [SparesNonce, h]
    exact UInt64.le_refl _

instance : Accumulates (KeepsNonce a) where
  refl m := .of_eq rfl
  trans h h' := by
    refine ⟨h.journaled.trans h'.journaled, fun hno => ?_⟩
    rw [allCalls_append] at hno
    have hfirst := h.nonce fun c hc => hno c (List.mem_append_left _ hc)
    have hsecond := h'.nonce fun c hc => hno c (List.mem_append_right _ hc)
    exact UInt64.le_trans hfirst hsecond

theorem keeps_sparesNonce_reply (nested : Primitive → Run NoFaults Outcome) {q : Query}
    (hq : q.SparesNonce a) (hd : ∀ p, q ≠ .dispatch p) :
    Keeps (SparesNonce a) (host.reply nested q) := by
  have htell (change : Word → Watchdog → Watchdog) :
      Keeps (SparesNonce a) (host.tell (φ := NoFaults) change) :=
    Respects.keeps_tell fun _ _ _ => UInt64.le_refl _
  cases q with
  | dispatch p => exact (hd p rfl).elim
  | storeWord b key value =>
    refine .attempt (.bind (keeps_sparesNonce_store trivial) fun _ => ?_)
    exact .bind (htell _) fun _ => keeps_sparesNonce_store trivial
  | loadWord b key => exact .attempt (keeps_sparesNonce_store trivial)
  | trace line => exact htell _
  | store op => exact .ask fun m => UInt64.le_of_eq (m.store.nonceAt_perform hq).symm
  | blockHash => exact .pure _
  | isCancelled | depth | remembered => exact .bind .get fun _ => .pure _
  | cancel | setDepth | setTracing | note | remember =>
    exact .modify fun _ => UInt64.le_refl _

section

variable {p : Primitive} {account : Address} {mark : Nat} {frame : Frame} {calls : List CallTree}
variable {m₀ m₁ m₂ : Machine NoFaults}

theorem KeepsNonce.after_leaves (hleaves : p.Leaves m₀.store.ledger m₁.store.ledger)
    (h : KeepsNonce a calls m₁ m₂) : KeepsNonce a calls m₀ m₂ :=
  ⟨hleaves.precedes.trans h.journaled,
    fun hno => UInt64.le_trans (hleaves.nonceAt_le a) (h.nonce hno)⟩

/-- A frame that is set up, and what runs in it, keep the nonce. -/
theorem keepsNonce_framed (hooks : host.env.SparesNonces)
    (hprepare : host.prepare account p m₀ = (.ok (.ready mark frame), m₁))
    (hcalls : KeepsNonce a calls m₁ m₂) (ended : Except Stop FrameEnd)
    (answer : Except Stop Outcome) : KeepsNonce a [.framed p frame calls ended answer] m₀ m₂ := by
  obtain ⟨-, rfl, m', hentered, hsame⟩ := entered_of_prepare hprepare
  have hledger : m₁.store.ledger = m'.store.ledger := hsame
  have hforward : Journaled m₀ m' :=
    (keeps_journaled_enterFrame hooks.toIsTame frame.account p).rel_of_eq hentered
  refine ⟨?_, fun hno => ?_⟩
  · rw [Journaled, ← hledger] at hforward
    exact hforward.trans hcalls.journaled
  · rw [allCalls_singleton, CallTree.calls, List.forall_mem_cons] at hno
    obtain ⟨hroot, hnested⟩ := hno
    have hother : p.IsCreation → frame.account ≠ a := by
      cases p with
      | call | callCode | delegateCall => exact False.elim
      | create => exact fun _ => hroot
    have hnonce : SparesNonce a m₀ m' :=
      (keeps_sparesNonce_enterFrame hooks hother).rel_of_eq hentered
    rw [SparesNonce, ← hledger] at hnonce
    exact UInt64.le_trans hnonce (hcalls.nonce hnested)

/-- Then settling the frame keeps it, too. -/
theorem keepsNonce_settled (hooks : host.env.SparesNonces)
    (hprepare : host.prepare account p m₀ = (.ok (.ready mark frame), m₁))
    (hcalls : KeepsNonce a calls m₁ m₂) (ended : FrameEnd) (answer : Except Stop Outcome) :
    KeepsNonce a [.framed p frame calls (.ok ended) answer] m₀
      (host.settle p mark frame ended m₂).2 := by
  have hframe := keepsNonce_framed hooks hprepare hcalls (.ok ended) answer
  have hl : m₀.store.ledger.Precedes m₂.store.ledger := hframe.journaled
  obtain ⟨rfl, -⟩ := entered_of_prepare hprepare
  refine ⟨?_, fun hno => nonceAt_settle hl (hframe.nonce hno) p frame ended⟩
  rw [Journaled]
  rcases host.ledger_settle_cases hl p frame ended with hback | hsame | ⟨-, code, hstored⟩
  · rw [hback]
    exact .refl _
  · rwa [hsame]
  · rw [hstored]
    exact hl.trans (Ledger.precedes_setCode _ _ _)

end

/-- **No step of a run lowers the nonce**, unless it creates the account. -/
theorem nests_keepsNonce (hooks : host.env.SparesNonces) :
    host.Nests (Query.SparesNonce a) (KeepsNonce a) := by
  have hφ : FaultModel.SparesReverts NoFaults := FaultModel.noFaults_sparesReverts
  have hrespects : host.Respects Query.GoesForward (Journaled (φ := NoFaults)) :=
    respects_journaled_of_goesForward hφ hooks.toIsTame
  refine { reply := ?reply, setDepth := ?setDepth, rewind := ?rewind, exhausted := ?exhausted
           bare := ?bare, unwound := ?unwound, settle := ?settle }
  case reply =>
    intro nested q hq hd m
    have hforward := hrespects.reply nested q hq.goesForward hd m
    exact ⟨hforward, fun _ => keeps_sparesNonce_reply nested hq hd m⟩
  case setDepth => exact fun m depth => .of_eq rfl
  case rewind =>
    intro calls m₀ m h
    rw [revert_apply hφ h.journaled]
    exact .of_eq rfl
  case exhausted => exact fun p m => .of_eq rfl
  case bare =>
    intro p m m' ended answer hs hunready
    have hleaves := leaves_of_unready hφ hooks.toIsTame hs hunready
    exact ⟨hleaves.precedes, fun _ => hleaves.nonceAt_le a⟩
  case unwound =>
    intro p m m₁ m₂ mark frame calls stop hs hcalls
    obtain ⟨account, m₀, hleaves, hprepare⟩ := exists_prepare_of_ready hooks.toIsTame hs
    exact (keepsNonce_framed hooks hprepare hcalls _ _).after_leaves hleaves
  case settle =>
    intro p m m₁ m₂ mark frame calls ended hs hcalls
    obtain ⟨account, m₀, hleaves, hprepare⟩ := exists_prepare_of_ready hooks.toIsTame hs
    exact (keepsNonce_settled hooks hprepare hcalls ended _).after_leaves hleaves

/-- **A primitive keeps the nonce from where its account was taken**, whatever becomes of it. -/
theorem keepsNonce_of_taken (hooks : host.env.SparesNonces)
    (hprograms : host.interpreter.Only (Query.SparesNonce a)) {p : Primitive} {account : Address}
    {m₀ : Machine NoFaults} (htaken : host.setUp p m = host.prepare account p m₀) :
    KeepsNonce a [host.callTree p m] m₀ (host.dispatch p m).2 := by
  have hnests := host.nests_keepsNonce (a := a) hooks
  obtain ⟨bound, hdispatch, htree⟩ := host.exists_dispatch_eq (φ := NoFaults)
  rw [hdispatch, htree, primitiveTree, primitive, bind_apply, htaken]
  rcases hp : host.prepare account p m₀ with ⟨stop | outcome | ⟨mark, frame⟩, m₁⟩
  · exact .of_eq (ledger_prepare FaultModel.noFaults_sparesReverts hooks.toIsTame hp (by simp))
  · exact .of_eq (ledger_prepare FaultModel.noFaults_sparesReverts hooks.toIsTame hp (by simp))
  · have hframe := hnests.runFrame (hnests.dispatchWithin hprograms bound) hprograms frame
      frame.calldata m₁
    dsimp only
    rw [bind_apply]
    rcases hf : host.runFrame (host.dispatchWithin bound) frame frame.calldata m₁ with
      ⟨stop | ended, m₂⟩
    all_goals rw [hf] at hframe
    · exact keepsNonce_framed hooks hp hframe _ _
    · exact keepsNonce_settled hooks hp hframe ended _

end Host

end CallWatch
