import CallWatch.Proofs.Ledger.Code
import CallWatch.Proofs.Machine.Balance
import CallWatch.Proofs.Machine.Concluding
import CallWatch.Proofs.Machine.Nesting

/-!
# Accounts that get no code

An account without code gets some in two ways only: a creation of that very account stores its
output there, or a program stores code there by itself.  So in a run in which neither happens the
account stays without code, whatever else is created, taken back or moved
(`Host.codeless_dispatch`).
-/

namespace CallWatch

open CallTree Run

/-- The hooks of an environment move value, and give no code to any account. -/
structure Environment.SparesCode (env : Environment) : Prop extends env.IsTame where
  code : ∀ sender receiver amount, (env.transfer sender receiver amount).SparesCode

/-- The hooks of an environment that sets none spare code. -/
theorem Environment.sparesCode_of_default {env : Environment} (hcan : env.canTransfer = .covers)
    (htransfer : env.transfer = .transfer) : env.SparesCode where
  toIsTame := Environment.isTame_of_default hcan htransfer
  code := by rw [htransfer]; exact Procedure.sparesCode_transfer

/-- Whether a request neither gives code to `a` nor goes back in the store, except by the primitives
of the machine. -/
def Query.SparesCode (a : Address) : Query → Prop
  | .store op => op.SparesCode a
  | _ => True

theorem Query.SparesCode.goesForward {a : Address} {q : Query} (h : q.SparesCode a) :
    q.GoesForward := by
  cases q with
  | store op => cases op <;> trivial
  | _ => trivial

theorem Primitive.Leaves.codeAt_eq {p : Primitive} {l l' : Ledger} (h : p.Leaves l l')
    (a : Address) : l'.codeAt a = l.codeAt a := by
  cases h with
  | same => rfl
  | raised => exact Ledger.codeAt_write fun _ => rfl

namespace Host

variable {host : Host} {a : Address} {m m' : Machine NoFaults}

/-- If the account has no code before, it has none after. -/
def Codeless (a : Address) (m m' : Machine NoFaults) : Prop :=
  m.store.ledger.StaysCodeless a m'.store.ledger

instance : IsPreorder (Machine NoFaults) (Codeless a) where
  refl _ := .refl _
  trans _ _ _ h h' := h.trans h'

theorem keeps_codeless_store {op : StoreOp} (hop : op.SparesCode a) :
    Keeps (Codeless a) (store (φ := NoFaults) op) :=
  .store fun m => m.store.staysCodeless_perform hop

theorem keeps_codeless_of_isSetup {op : StoreOp} (hop : op.IsSetup) :
    Keeps (Codeless a) (store (φ := NoFaults) op) :=
  keeps_codeless_store (by cases op <;> trivial)

theorem codeless_of_sameLedger (h : SameLedger m m') : Codeless a m m' :=
  .of_eq (congrArg (·.codeAt a) h)

/-! ### Setting up -/

theorem keeps_codeless_enterFrame (hooks : host.env.SparesCode) (account : Address)
    (p : Primitive) : Keeps (Codeless a) (host.enterFrame (φ := NoFaults) account p) :=
  keeps_enterFrame (fun _ hop => keeps_codeless_of_isSetup hop)
    (fun sender receiver amount => .perform fun m => hooks.code sender receiver amount m.store a)
    account p

/-- The setup of a frame gives no code, also where it fails and is taken back. -/
theorem codeless_prepare (hooks : host.env.SparesCode) (account : Address) (p : Primitive)
    (m : Machine NoFaults) : Codeless a m (host.prepare account p m).2 := by
  have hentered := keeps_codeless_enterFrame (a := a) hooks account p m
  have hforward := keeps_journaled_enterFrame hooks.toIsTame account p m
  rw [prepare, bind_of_ok (snapshot_apply m), bind_apply]
  rcases undoOnFailure_cases FaultModel.noFaults_sparesReverts hforward with
    ⟨hsame, -⟩ | ⟨failure, -, hundone⟩
  · rw [hsame]
    rcases he : host.enterFrame account p m with ⟨stop | _ | frame, m₁⟩
    all_goals
      rw [he] at hentered
      exact hentered
  · rw [hundone]
    exact .refl _

theorem codeless_setUp (hooks : host.env.SparesCode) (p : Primitive) :
    Keeps (Codeless a) (host.setUp (φ := NoFaults) p) := by
  have hrefusal : Keeps (Codeless a) (host.refusal? (φ := NoFaults) p.payer p.gas p.value?) :=
    fun m => codeless_of_sameLedger (keeps_sameLedger_refusal? hooks.toIsTame _ _ _ m)
  refine .bind hrefusal fun outcome? => ?_
  cases outcome? with
  | some outcome => exact .pure _
  | none =>
    have htake : Keeps (Codeless a) (takeAccount (φ := NoFaults) p) :=
      keeps_takeAccount (fun _ hop => keeps_codeless_of_isSetup hop) p
    exact .bind htake fun account => codeless_prepare hooks account p

/-! ### The run -/

/-- The earlier ledger can be gone back to, and if no frame of these trees was set up to create `a`,
the account stays without code. -/
structure GivesNoCode (a : Address) (calls : List CallTree) (m m' : Machine NoFaults) : Prop where
  journaled : Journaled m m'
  codeless : (∀ call ∈ allCalls calls, ¬call.Creates a) → Codeless a m m'

instance : Accumulates (GivesNoCode a) where
  refl m := ⟨.refl _, fun _ => .refl _⟩
  trans h h' := by
    refine ⟨h.journaled.trans h'.journaled, fun hno => ?_⟩
    rw [allCalls_append] at hno
    exact (h.codeless fun c hc => hno c (List.mem_append_left _ hc)).trans
      (h'.codeless fun c hc => hno c (List.mem_append_right _ hc))

theorem keeps_codeless_reply (nested : Primitive → Run NoFaults Outcome) {q : Query}
    (hq : q.SparesCode a) (hd : ∀ p, q ≠ .dispatch p) :
    Keeps (Codeless a) (host.reply nested q) := by
  have htell (change : Word → Watchdog → Watchdog) :
      Keeps (Codeless a) (host.tell (φ := NoFaults) change) :=
    Respects.keeps_tell fun _ _ _ => .refl _
  cases q with
  | dispatch p => exact (hd p rfl).elim
  | storeWord b key value =>
    refine .attempt (.bind (keeps_codeless_store trivial) fun _ => ?_)
    exact .bind (htell _) fun _ => keeps_codeless_store trivial
  | loadWord b key => exact .attempt (keeps_codeless_store trivial)
  | trace line => exact htell _
  | store op => exact .ask fun m => m.store.staysCodeless_perform hq
  | blockHash => exact .pure _
  | isCancelled | depth | remembered => exact .bind .get fun _ => .pure _
  | cancel | setDepth | setTracing | note | remember => exact .modify fun _ => .refl _

theorem nests_codeless (hooks : host.env.SparesCode) :
    host.Nests (Query.SparesCode a) (GivesNoCode a) := by
  have hφ : FaultModel.SparesReverts NoFaults := FaultModel.noFaults_sparesReverts
  have hrespects : host.Respects Query.GoesForward (Journaled (φ := NoFaults)) :=
    respects_journaled_of_goesForward hφ hooks.toIsTame
  refine { reply := ?reply, setDepth := ?setDepth, rewind := ?rewind, exhausted := ?exhausted
           bare := ?bare, unwound := ?unwound, settle := ?settle }
  case reply =>
    intro nested q hq hd m
    have hforward := hrespects.reply nested q hq.goesForward hd m
    exact ⟨hforward, fun _ => keeps_codeless_reply nested hq hd m⟩
  case setDepth => exact fun m depth => ⟨.refl _, fun _ => .refl _⟩
  case rewind =>
    intro calls m₀ m h
    rw [revert_apply hφ h.journaled]
    exact ⟨.refl _, fun _ => .refl _⟩
  case exhausted => exact fun p m => ⟨.refl _, fun _ => .refl _⟩
  case bare =>
    intro p m m' ended answer hs _
    exact ⟨(hrespects.setUp p).rel_of_eq hs, fun _ => (codeless_setUp hooks p).rel_of_eq hs⟩
  case unwound =>
    intro p m m₁ m₂ mark frame calls stop hs hcalls
    have hforward : Journaled m m₁ := (hrespects.setUp p).rel_of_eq hs
    have hcodeless : Codeless a m m₁ := (codeless_setUp hooks p).rel_of_eq hs
    refine ⟨trans_of Journaled hforward hcalls.journaled, fun hno => ?_⟩
    rw [allCalls_singleton, CallTree.calls, List.forall_mem_cons] at hno
    exact hcodeless.trans (hcalls.codeless hno.2)
  case settle =>
    intro p m m₁ m₂ mark frame calls ended hs hcalls
    have hcodeless : Codeless a m m₁ := (codeless_setUp hooks p).rel_of_eq hs
    have hsets := setsUp_setUp hφ hooks.toIsTame p m
    rw [hs] at hsets
    obtain ⟨l, rfl, hleaves, hmark⟩ := hsets
    have hstart : m.store.ledger.Precedes m₁.store.ledger := hleaves.precedes.trans hmark
    have hframe : m₁.store.ledger.Precedes m₂.store.ledger := hcalls.journaled
    rcases host.ledger_settle_cases (hmark.trans hframe) p frame ended with
      hback | hsame | ⟨hcreation, code, hstored⟩
    · -- only a nonce is left of it
      refine ⟨?_, fun _ => ?_⟩
      · rw [Journaled, hback]
        exact hleaves.precedes
      · rw [Codeless, hback]
        exact .of_eq (hleaves.codeAt_eq a)
    · refine ⟨?_, fun hno => ?_⟩
      · rw [Journaled, hsame]
        exact hstart.trans hframe
      · rw [allCalls_singleton, CallTree.calls, List.forall_mem_cons] at hno
        rw [Codeless, hsame]
        exact hcodeless.trans (hcalls.codeless hno.2)
    · -- the account that gets the code is another one
      refine ⟨?_, fun hno => ?_⟩
      · rw [Journaled, hstored]
        exact (hstart.trans hframe).trans (Ledger.precedes_setCode _ _ _)
      · rw [allCalls_singleton, CallTree.calls, List.forall_mem_cons] at hno
        have hother : frame.account ≠ a := by
          cases p with
          | call | callCode | delegateCall => exact hcreation.elim
          | create => exact hno.1
        rw [Codeless, hstored, Ledger.StaysCodeless, Ledger.codeAt_setCode, if_neg hother]
        exact hcodeless.trans (hcalls.codeless hno.2)

/-- **An account without code stays without code**, unless a frame was set up to create it or a
program stored code there by itself. -/
theorem codeless_dispatch (hooks : host.env.SparesCode)
    (hprograms : host.interpreter.Only (Query.SparesCode a)) (p : Primitive) (m : Machine NoFaults)
    (hno : ∀ call ∈ (host.callTree p m).calls, ¬call.Creates a) :
    Codeless a m (host.dispatch p m).2 := by
  have hgives := (host.nests_codeless hooks).dispatch hprograms p m
  refine hgives.codeless ?_
  rwa [allCalls_singleton]

end Host

end CallWatch
