import CallWatch.Proofs.Ledger.Code
import CallWatch.Proofs.Machine.Nonces
import CallWatch.Proofs.Machine.Refusal

/-!
# What stands while a frame runs

Programs that act from their own frame write the storage of the account of that frame and dispatch
primitives on its behalf, and nothing else of theirs changes the state.  So what such a program can
do depends on its frame, and a fact about the account of the frame that no step ends, as that the
account is there, can be used for every step of the program.

`Host.Sustains` says what has to be shown to use such a fact: what it is for a frame, what has to
hold where a primitive is dispatched, and what the single changes of the ledger do.  Then every
primitive follows along its call tree (`Host.Sustains.dispatch`), whatever it is nested in and
however it ends.

The single changes of a setup are told once and for all, by `Primitive.Takes` for the account of a
primitive and by `Host.Enters` for its frame.
-/

namespace CallWatch

open CallTree Run

/-! ### Acting from a frame -/

/-- Whether a primitive is dispatched from a frame: by the account of the frame, or, as a delegate
call, by the frame itself, whose gas may have changed since it started. -/
def Primitive.IsFrom (frame : Frame) : Primitive → Prop
  | call caller _ _ _ _ | callCode caller _ _ _ _ | create caller _ _ _ => caller = frame.account
  | delegateCall parent _ _ _ => parent = { frame with gasRemaining := parent.gasRemaining }

theorem Primitive.IsFrom.payer_eq {frame : Frame} {p : Primitive} (h : p.IsFrom frame) :
    p.payer = frame.account := by
  cases p with
  | call | callCode | create => exact h
  | delegateCall parent codeAddress input gas =>
    show parent.account = frame.account
    rw [show parent = { frame with gasRemaining := parent.gasRemaining } from h]

/-- Whether a request acts on the state from a frame only: it dispatches primitives from it, writes
the storage of its account, or changes nothing in the store. -/
def Query.IsFrom (frame : Frame) : Query → Prop
  | .dispatch p => p.IsFrom frame
  | .storeWord account _ _ => account = frame.account
  | .store op => op.IsRead
  | _ => True

theorem Query.IsFrom.goesForward {frame : Frame} {q : Query} (h : q.IsFrom frame) :
    q.GoesForward := by
  cases q with
  | store op => cases op <;> trivial
  | _ => trivial

/-- Whether all programs of an interpreter act on the state from their own frame only. -/
def Interpreter.ActsFromFrame (interpreter : Interpreter) : Prop :=
  ∀ frame input, (interpreter frame input).Only (Query.IsFrom frame)

theorem Interpreter.ActsFromFrame.goesForward {interpreter : Interpreter}
    (h : interpreter.ActsFromFrame) : interpreter.Only Query.GoesForward :=
  fun frame input => (h frame input).mono fun _ => Query.IsFrom.goesForward

/-! ### What a setup does to the ledger -/

/-- The account that a primitive takes on a ledger, and the ledger with which it goes on: a creation
has raised the nonce of its caller. -/
inductive Primitive.Takes (l : Ledger) : Primitive → Address → Ledger → Prop
  | call {caller target : Address} {input : Bytes} {gas : UInt64} {value : Word} :
      Takes l (.call caller target input gas value) target l
  | callCode {caller codeAddress : Address} {input : Bytes} {gas : UInt64} {value : Word} :
      Takes l (.callCode caller codeAddress input gas value) caller l
  | delegateCall {parent : Frame} {codeAddress : Address} {input : Bytes} {gas : UInt64} :
      Takes l (.delegateCall parent codeAddress input gas) parent.account l
  | create {caller : Address} {code : Bytes} {gas : UInt64} {value : Word} {next : UInt64}
      (hnext : next.toNat = (l.nonceAt caller).toNat + 1) :
      Takes l (.create caller code gas value) (contractAddress caller (l.nonceAt caller))
        (l.setNonce caller next)

theorem Primitive.Takes.precedes {p : Primitive} {account : Address} {l l' : Ledger}
    (h : p.Takes l account l') : l.Precedes l' := by
  cases h with
  | call | callCode | delegateCall => exact .refl l
  | create hnext => exact Ledger.precedes_setNonce l _ _

/-- A primitive that is neither a call nor a creation takes the account that pays for it. -/
theorem Primitive.Takes.eq_payer {p : Primitive} {account : Address} {l l' : Ledger}
    (h : p.Takes l account l')
    (hcall : ∀ caller target input gas value, p ≠ .call caller target input gas value)
    (hp : ¬p.IsCreation) : account = p.payer ∧ l' = l := by
  cases h with
  | call => exact (hcall _ _ _ _ _ rfl).elim
  | callCode | delegateCall => exact ⟨rfl, rfl⟩
  | create => exact (hp trivial).elim

/-- A creation raises the nonce of its caller. -/
theorem Primitive.Takes.eq_setNonce {caller account : Address} {code : Bytes} {gas : UInt64}
    {value : Word} {l l' : Ledger}
    (h : (Primitive.create caller code gas value).Takes l account l') :
    ∃ next : UInt64, next.toNat = (l.nonceAt caller).toNat + 1 ∧ l' = l.setNonce caller next := by
  cases h with
  | create hnext => exact ⟨_, hnext, rfl⟩

/-- The hook of an environment turned one ledger into the other when it moved an amount. -/
def Environment.Moves (env : Environment) (sender receiver : Address) (amount : Word)
    (l l' : Ledger) : Prop :=
  ∃ s : Store NoFaults, s.ledger = l ∧ (s.follow (env.transfer sender receiver amount)).1 = .ok () ∧
    (s.follow (env.transfer sender receiver amount)).2.ledger = l'

/-- The hook that moves value by default debits the sender and credits the receiver. -/
theorem Environment.Moves.steps {env : Environment} (htransfer : env.transfer = .transfer)
    {sender receiver : Address} {amount : Word} {l l' : Ledger}
    (h : env.Moves sender receiver amount l l') :
    ∃ l₁, l.subBalance sender amount = .ok l₁ ∧ l₁.addBalance receiver amount = .ok l' := by
  have hchanged {l : Ledger} {change : Except StoreFault Ledger}
      (hok : (l.settle change).1 = .ok ()) : change = .ok (l.settle change).2 := by
    cases change with
    | ok l' => rfl
    | error fault => cases hok
  obtain ⟨s, rfl, hmoved, rfl⟩ := h
  rw [htransfer] at hmoved ⊢
  change (Store.follow _ (Procedure.bind (.done _) _)).1 = _ at hmoved
  show ∃ l₁, _ ∧ _ = Except.ok (Store.follow _ (Procedure.bind (.done _) _)).2.ledger
  cases hsub : (s.perform (.subBalance sender amount)).1 with
  | error fault =>
    rw [hsub] at hmoved
    cases hmoved
  | ok answer =>
    rw [hsub] at hmoved
    obtain ⟨hdebit, hdebited⟩ := Store.perform_of_ok hsub
    obtain ⟨hcredit, hcredited⟩ := Store.perform_of_ok
      (show ((s.perform (.subBalance sender amount)).2.perform (.addBalance receiver amount)).1 =
        .ok () from hmoved)
    refine ⟨_, hdebited ▸ hchanged hdebit, ?_⟩
    exact (hchanged hcredit).trans (congrArg Except.ok hcredited.symm)

namespace Host

/-- The ledger in which a creation has started its account. -/
def started (host : Host) (account : Address) (l : Ledger) : Ledger :=
  if host.rules.isEip158 then (l.createAccount account).setNonce account 1
  else l.createAccount account

/-- What entering a frame does to the ledger, given the primitive and the account that it took. -/
inductive Enters (host : Host) (l : Ledger) : Primitive → Address → Frame → Ledger → Prop
  /-- A call of an account that is there. -/
  | present {caller target account : Address} {input : Bytes} {gas : UInt64} {value : Word}
      {frame : Frame} {l' : Ledger} (hthere : target ∈ l.accounts)
      (hmoves : host.env.Moves caller target value l l') (hcode : frame.code = l'.codeAt target) :
      Enters host l (.call caller target input gas value) account frame l'
  /-- A call of an account that was not there, and that may be created for it. -/
  | appeared {caller target account : Address} {input : Bytes} {gas : UInt64} {value : Word}
      {frame : Frame} {l' : Ledger} (hmissing : target ∉ l.accounts)
      (hallowed : host.precompiles.contains target ∨ host.rules.isEip158 = false ∨ value ≠ 0)
      (hmoves : host.env.Moves caller target value (l.createAccount target) l')
      (hcode : frame.code = l'.codeAt target) :
      Enters host l (.call caller target input gas value) account frame l'
  /-- Code is borrowed for an account. -/
  | borrowed {p : Primitive} {account : Address} {frame : Frame}
      (hcall : ∀ caller target input gas value, p ≠ .call caller target input gas value)
      (hp : ¬p.IsCreation) : Enters host l p account frame l
  /-- A new account was put in place. -/
  | created {caller account : Address} {code : Bytes} {gas : UInt64} {value : Word} {frame : Frame}
      {l' : Ledger} (hmoves : host.env.Moves caller account value (host.started account l) l') :
      Enters host l (.create caller code gas value) account frame l'

variable {host : Host} {m m' : Machine NoFaults}

theorem takes_takeAccount {p : Primitive} {account : Address}
    (h : takeAccount p m = (.ok account, m')) :
    p.Takes m.store.ledger account m'.store.ledger := by
  cases p with
  | call | callCode | delegateCall =>
    cases h
    constructor
  | create caller code gas value =>
    rw [takeAccount_create] at h
    rcases raisingNonce_cases caller (fun nonce => pure (contractAddress caller nonce)) m with
      ⟨failure, m₁, hfailed, -⟩ | ⟨next, m₁, hraised, hnext, hledger⟩
    · rw [hfailed] at h
      cases h
    · rw [hraised, pure_apply, Prod.mk.injEq, Except.ok.injEq] at h
      obtain ⟨rfl, rfl⟩ := h
      rw [hledger]
      exact .create hnext

theorem moves_of_perform {sender receiver : Address} {amount : Word}
    (h : perform (host.env.transfer sender receiver amount) m = (.ok (), m')) :
    host.env.Moves sender receiver amount m.store.ledger m'.store.ledger := by
  rw [perform_apply, Prod.mk.injEq, ofStore_eq_ok_iff] at h
  obtain ⟨hanswer, rfl⟩ := h
  exact ⟨m.store, rfl, hanswer, rfl⟩

/-- A target is there after it was made sure of because it was there before, or because it could be
created. -/
theorem ensureTarget_cases {target : Address} {value : Word}
    (h : host.ensureTarget target value m = (.ok true, m')) :
    (target ∈ m.store.ledger.accounts ∧ m'.store.ledger = m.store.ledger) ∨
      target ∉ m.store.ledger.accounts ∧
        (host.precompiles.contains target ∨ host.rules.isEip158 = false ∨ value ≠ 0) ∧
        m'.store.ledger = m.store.ledger.createAccount target := by
  have hmissing := ensureTarget_eq_false_iff h
  have hexist : store (.exist target) m = (.ok (m.store.ledger.accounts.contains target), m) := rfl
  rw [ensureTarget, bind_of_ok hexist] at h
  by_cases hin : target ∈ m.store.ledger.accounts
  · rw [if_pos (Std.ExtTreeMap.mem_iff_contains.1 hin)] at h
    cases h
    exact .inl ⟨hin, rfl⟩
  · rw [if_neg fun hc => hin (Std.ExtTreeMap.mem_iff_contains.2 hc)] at h
    split at h
    · cases h
    · cases h
      refine .inr ⟨hin, ?_, rfl⟩
      -- otherwise the target would have been left missing
      by_contra hforbidden
      simp only [not_or, Bool.not_eq_true, Bool.not_eq_false, ne_eq, not_not] at hforbidden
      cases hmissing.2 ⟨hin, hforbidden⟩

/-- A frame is ready once its primitive has taken an account and prepared the frame on it. -/
theorem taken_of_ready (hooks : host.env.IsTame) {p : Primitive} {mark : Nat} {frame : Frame}
    (h : host.setUp p m = (.ok (.ready mark frame), m')) :
    ∃ account m₁, p.Takes m.store.ledger account m₁.store.ledger ∧
      host.prepare account p m₁ = (.ok (.ready mark frame), m') := by
  rw [setUp, bind_eq_ok_iff] at h
  obtain ⟨outcome?, m₀, hrefusal, h⟩ := h
  have hsame : m₀.store.ledger = m.store.ledger :=
    (keeps_sameLedger_refusal? hooks p.payer p.gas p.value?).rel_of_eq hrefusal
  cases outcome? with
  | some outcome => cases h
  | none =>
    obtain ⟨account, m₁, htake, hprepare⟩ := bind_eq_ok_iff.1 h
    have htakes := takes_takeAccount htake
    rw [hsame] at htakes
    exact ⟨account, m₁, htakes, hprepare⟩

/-- **What a frame marks** is the ledger with which its primitive went on, and it can be gone back
to. -/
theorem marked_of_ready (hooks : host.env.IsTame) {p : Primitive} {mark : Nat} {frame : Frame}
    (h : host.setUp p m = (.ok (.ready mark frame), m')) :
    ∃ l, p.Takes m.store.ledger frame.account l ∧ mark = l.snapshot ∧
      l.Precedes m'.store.ledger := by
  obtain ⟨account, m₁, htakes, hprepare⟩ := taken_of_ready hooks h
  obtain ⟨hmark, haccount, m₂, hentered, hsame⟩ := entered_of_prepare hprepare
  have hforward : m₁.store.ledger.Precedes m₂.store.ledger :=
    (keeps_journaled_enterFrame hooks account p).rel_of_eq hentered
  rw [← show m'.store.ledger = m₂.store.ledger from hsame] at hforward
  exact ⟨m₁.store.ledger, haccount ▸ htakes, hmark, hforward⟩

/-- **All that entering a frame can do to the ledger.** -/
theorem enters_enterFrame {p : Primitive} {account : Address} {frame : Frame}
    (h : host.enterFrame account p m = (.ok (some frame), m')) :
    host.Enters m.store.ledger p account frame m'.store.ledger := by
  cases p with
  | call caller target input gas value =>
    rw [enterFrame, bind_eq_ok_iff] at h
    obtain ⟨isThere, m₁, hensure, h⟩ := h
    cases isThere with
    | false => cases h
    | true =>
      simp only [if_true, bind_eq_ok_iff, get_apply] at h
      obtain ⟨_, m₂, htransfer, code, m₃, hcode, _, _, hget, h⟩ := h
      have hmoves := moves_of_perform htransfer
      cases hcode
      cases hget
      cases h
      rcases ensureTarget_cases hensure with ⟨hin, hsame⟩ | ⟨hin, hallowed, hcreated⟩
      · rw [hsame] at hmoves
        exact .present hin hmoves rfl
      · rw [hcreated] at hmoves
        exact .appeared hin hallowed hmoves rfl
  | callCode | delegateCall =>
    simp only [enterFrame, bind_eq_ok_iff, get_apply] at h
    obtain ⟨_, m₁, hcode, _, _, hget, h⟩ := h
    cases hcode
    cases hget
    cases h
    exact .borrowed (fun _ _ _ _ _ h => by cases h) id
  | create caller code gas value =>
    have hstarted : ∃ m₁ m₂ : Machine NoFaults,
        m₁.store.ledger = host.started account m.store.ledger ∧
          perform (host.env.transfer caller account value) m₁ = (.ok (), m₂) ∧
            m₂.store.ledger = m'.store.ledger := by
      rw [enterFrame, bind_eq_ok_iff] at h
      obtain ⟨_, m₁, hcreate, h⟩ := h
      cases hcreate
      unfold started
      split at h <;> simp only [bind_eq_ok_iff, get_apply] at h
      next hfork =>
        obtain ⟨_, m₂, hnonce, _, m₃, htransfer, _, _, hget, h⟩ := h
        cases hnonce
        cases hget
        cases h
        rw [if_pos hfork]
        exact ⟨_, _, rfl, htransfer, rfl⟩
      next hfork =>
        obtain ⟨_, m₂, htransfer, _, _, hget, h⟩ := h
        cases hget
        cases h
        rw [if_neg hfork]
        exact ⟨_, _, rfl, htransfer, rfl⟩
    obtain ⟨m₁, m₂, hm₁, htransfer, hm₂⟩ := hstarted
    have hmoves := moves_of_perform htransfer
    rw [hm₁, hm₂] at hmoves
    exact .created hmoves

/-! ### What programs can rely on -/

/-- What a request from a frame that starts no frame does to the ledger. -/
theorem ledger_reply_cases (nested : Primitive → Run NoFaults Outcome) {frame : Frame} {q : Query}
    (hq : q.IsFrom frame) (hd : ∀ p, q ≠ .dispatch p) (m : Machine NoFaults) :
    (host.reply nested q m).2.store.ledger = m.store.ledger ∨
      ∃ key value, (host.reply nested q m).2.store.ledger =
        m.store.ledger.setState frame.account key value := by
  cases q with
  | dispatch p => exact (hd p rfl).elim
  | storeWord account key value =>
    obtain rfl : account = frame.account := hq
    refine .inr ⟨key, value, ?_⟩
    rw [← ledger_storeWord]
    exact congrArg (·.store.ledger) (snd_attempt _ m)
  | loadWord account key =>
    have hread : Keeps SameLedger (attempt (loadWord (φ := NoFaults) account key)) :=
      .attempt (keeps_sameLedger_read _ trivial)
    exact .inl (hread m)
  | trace line =>
    have htrace : Keeps SameLedger (host.trace (φ := NoFaults) line) :=
      Respects.keeps_tell fun _ _ _ => rfl
    exact .inl (htrace m)
  | store op => exact .inl (m.store.ledger_perform_of_isRead op hq)
  | blockHash | isCancelled | depth | remembered | cancel | setDepth | setTracing | note
  | remember => exact .inl rfl

/-- Steps that sustain what frames rely on.  `stands frame` is what the program of a frame relies
on, `due p` is what holds where a primitive is dispatched, and `S` is what becomes of the ledger,
given the trees of the primitives in between. -/
structure Sustains (host : Host) (due : Primitive → Ledger → Prop)
    (stands : Frame → Ledger → Prop) (S : List CallTree → Ledger → Ledger → Prop) : Prop where
  /-- Whatever ran may have been taken back. -/
  refl : ∀ calls l, S calls l l
  trans : ∀ {calls calls' l l' l''}, S calls l l' → S calls' l' l'' → S (calls ++ calls') l l''
  stable : ∀ {frame calls l l'}, stands frame l → S calls l l' → stands frame l'
  due_of_stands : ∀ {frame l} {p : Primitive}, frame.code ≠ [] → stands frame l →
    p.payer = frame.account → due p l
  setState : ∀ {frame l} key value, frame.code ≠ [] → stands frame l →
    S [] l (l.setState frame.account key value)
  raised : ∀ {caller code gas value l} {next : UInt64}, due (.create caller code gas value) l →
    next.toNat = (l.nonceAt caller).toNat + 1 → S [] l (l.setNonce caller next)
  /-- A frame was entered, and its program went on as far as it could rely on what it has to.  If
  it was a creation, code may then have been stored at its account. -/
  framed : ∀ {p account frame l₀ l l' l'' calls} (ended answer), due p l₀ → p.Takes l₀ account l →
    host.Enters l p account frame l' → frame.account = account →
    (stands frame l' → S calls l' l'') →
    S [.framed p frame calls ended answer] l l'' ∧
      (p.IsCreation → ∀ code,
        S [.framed p frame calls ended answer] l (l''.setCode frame.account code))

/-- The earlier ledger can be gone back to, and the relation between ledgers holds. -/
structure Sustained (S : List CallTree → Ledger → Ledger → Prop) (calls : List CallTree)
    (m m' : Machine NoFaults) : Prop where
  journaled : Journaled m m'
  related : S calls m.store.ledger m'.store.ledger

namespace Sustains

variable {due : Primitive → Ledger → Prop} {stands : Frame → Ledger → Prop}
  {S : List CallTree → Ledger → Ledger → Prop}

theorem sustained_of_eq (h : host.Sustains due stands S) {calls : List CallTree}
    (heq : m'.store.ledger = m.store.ledger) : Sustained S calls m m' := by
  refine ⟨?_, ?_⟩
  · rw [Journaled, heq]
    exact .refl _
  · rw [heq]
    exact h.refl _ _

theorem accumulates (h : host.Sustains due stands S) : Accumulates (Sustained S) where
  refl _ := h.sustained_of_eq rfl
  trans hm hm' := ⟨hm.journaled.trans hm'.journaled, h.trans hm.related hm'.related⟩

/-- What is taken back has left no trace. -/
theorem guarded (h : host.Sustains due stands S) {α : Type} {x : Run NoFaults α}
    {calls : List CallTree} (hx : Sustained S calls m (x m).2) :
    Sustained S calls m (Run.guarded x m).2 := by
  rw [guarded_apply]
  rcases hxm : x m with ⟨(failure | message | _) | a, m₁⟩
  all_goals rw [hxm] at hx
  case error.panicked =>
    dsimp only
    rw [bind_of_ok (revert_apply FaultModel.noFaults_sparesReverts hx.journaled)]
    exact h.sustained_of_eq rfl
  all_goals exact hx

section

variable {nested : Primitive → Run NoFaults Outcome}
  {tree : Primitive → Machine NoFaults → CallTree}

/-- **A program that acts from its frame** can rely on what stands for the frame at each step, as no
step of it ends that. -/
theorem run (h : host.Sustains due stands S) (hooks : host.env.IsTame)
    (hnested : ∀ p m, due p m.store.ledger → Sustained S [tree p m] m (nested p m).2)
    {frame : Frame} (hcode : frame.code ≠ []) {α : Type} {program : Program α}
    (hprogram : program.Only (Query.IsFrom frame)) (m : Machine NoFaults)
    (hstands : stands frame m.store.ledger) :
    Sustained S (host.runCalls nested tree program m) m (host.run nested program m).2 := by
  have : Accumulates (Sustained S) := h.accumulates
  have hrespects : host.Respects Query.GoesForward (Journaled (φ := NoFaults)) :=
    respects_journaled_of_goesForward FaultModel.noFaults_sparesReverts hooks
  induction program generalizing m with
  | done value => exact h.sustained_of_eq rfl
  | panic message => exact h.sustained_of_eq rfl
  | ask query next ih =>
    obtain ⟨hquery, hnext⟩ := hprogram
    refine Nests.bind ?_ fun reply m' hm' =>
      ih reply (hnext reply) m' (h.stable hstands hm'.related)
    by_cases hd : ∃ p, query = .dispatch p
    · -- a primitive that is dispatched from the frame, whose failure is a reply
      obtain ⟨p, rfl⟩ := hd
      rw [show (host.reply nested (.dispatch p) m).2 = _ from snd_attempt (nested p) m]
      exact hnested p m (h.due_of_stands hcode hstands (Primitive.IsFrom.payer_eq hquery))
    · have hother : ∀ p, query ≠ .dispatch p := fun p hp => hd ⟨p, hp⟩
      have hreply : Sustained S [] m (host.reply nested query m).2 := by
        refine ⟨hrespects.reply nested query hquery.goesForward hother m, ?_⟩
        rcases host.ledger_reply_cases nested hquery hother m with hsame | ⟨key, value, hwritten⟩
        · rw [hsame]
          exact h.refl _ _
        · rw [hwritten]
          exact h.setState key value hcode hstands
      cases query with
      | dispatch p => exact (hother p rfl).elim
      | _ => exact hreply
  | guarded body next ihBody ihNext =>
    obtain ⟨hbody, hnext⟩ := hprogram
    refine Nests.bind ?_ fun answer m' hm' =>
      ihNext answer (hnext answer) m' (h.stable hstands hm'.related)
    rw [snd_attempt]
    exact h.guarded (Nests.bind_keeps (ihBody hbody m hstands) fun ended => .ofExcept ended)

theorem runFrame (h : host.Sustains due stands S) (hooks : host.env.IsTame)
    (hprograms : host.interpreter.ActsFromFrame)
    (hnested : ∀ p m, due p m.store.ledger → Sustained S [tree p m] m (nested p m).2)
    (frame : Frame) (input : Bytes) (m : Machine NoFaults)
    (hstands : stands frame m.store.ledger) :
    Sustained S (host.frameCalls nested tree frame input m) m
      (host.runFrame nested frame input m).2 := by
  have : Accumulates (Sustained S) := h.accumulates
  rcases host.runFrame_cases frame input m with ⟨ended, hends⟩ | ⟨hcode, depth, -, hstarts⟩
  · obtain ⟨hrun, hcalls, -⟩ := hends nested
    rw [hrun, hcalls]
    exact h.sustained_of_eq rfl
  · obtain ⟨hrun, hcalls, -⟩ := hstarts nested
    rw [hrun, hcalls]
    have hprogram := h.run hooks hnested hcode (hprograms frame input) { m with depth } hstands
    have hdepth (m : Machine NoFaults) (depth : UInt64) : Sustained S [] m { m with depth } :=
      h.sustained_of_eq rfl
    exact Accumulates.trans (hdepth m depth) (Nests.bind_keeps hprogram (keeps_leave hdepth))

/-- A primitive without a frame has raised a nonce at most. -/
theorem sustained_of_leaves (h : host.Sustains due stands S) {p : Primitive}
    (hdue : due p m.store.ledger) (hleaves : p.Leaves m.store.ledger m'.store.ledger)
    (calls : List CallTree) : Sustained S calls m m' := by
  refine ⟨hleaves.precedes, ?_⟩
  generalize m'.store.ledger = l' at hleaves ⊢
  cases hleaves with
  | same => exact h.refl _ _
  | raised hp hnext =>
    subst hp
    exact h.trans (h.raised hdue hnext) (h.refl calls _)

/-- What a primitive does before its frame. -/
theorem related_of_takes (h : host.Sustains due stands S) {p : Primitive} {account : Address}
    {l l' : Ledger} (hdue : due p l) (htakes : p.Takes l account l') : S [] l l' := by
  cases htakes with
  | call | callCode | delegateCall => exact h.refl [] l
  | create hnext => exact h.raised hdue hnext

theorem primitive (h : host.Sustains due stands S) (hooks : host.env.IsTame)
    (hprograms : host.interpreter.ActsFromFrame) (hjournaled : ∀ p, Keeps Journaled (nested p))
    (hnested : ∀ p m, due p m.store.ledger → Sustained S [tree p m] m (nested p m).2)
    (p : Primitive) (m : Machine NoFaults) (hdue : due p m.store.ledger) :
    Sustained S [host.primitiveTree nested tree p m] m (host.primitive nested p m).2 := by
  have hφ : FaultModel.SparesReverts NoFaults := FaultModel.noFaults_sparesReverts
  have hrespects : host.Respects Query.GoesForward (Journaled (φ := NoFaults)) :=
    respects_journaled_of_goesForward hφ hooks
  unfold primitiveTree Host.primitive
  rw [bind_apply]
  rcases hs : host.setUp p m with ⟨stop | outcome | ⟨mark, frame⟩, m₂⟩
  · exact h.sustained_of_leaves hdue (leaves_of_unready hφ hooks hs nofun) _
  · exact h.sustained_of_leaves hdue (leaves_of_unready hφ hooks hs nofun) _
  obtain ⟨account, m₁, htakes, hprepare⟩ := taken_of_ready hooks hs
  obtain ⟨rfl, haccount, m', hentered, hsame⟩ := entered_of_prepare hprepare
  have hledger : m₂.store.ledger = m'.store.ledger := hsame
  have henters := enters_enterFrame hentered
  rw [← hledger] at henters
  have hbefore : Sustained S [] m m₁ := ⟨htakes.precedes, h.related_of_takes hdue htakes⟩
  have hforward : Journaled m₁ m₂ := by
    rw [Journaled, hledger]
    exact (keeps_journaled_enterFrame hooks account p).rel_of_eq hentered
  have hrun : Journaled m₂ (host.runFrame nested frame frame.calldata m₂).2 :=
    hrespects.runFrame hjournaled hprograms.goesForward frame frame.calldata m₂
  have hframe (hstands : stands frame m₂.store.ledger) :=
    (h.runFrame hooks hprograms hnested frame frame.calldata m₂ hstands).related
  have hframed := fun ended answer => h.framed ended answer hdue htakes henters haccount hframe
  have : Accumulates (Sustained S) := h.accumulates
  dsimp only
  rw [bind_apply]
  rcases hf : host.runFrame nested frame frame.calldata m₂ with ⟨stop | ended, m₃⟩
  all_goals rw [hf] at hrun hframed
  · exact Accumulates.trans hbefore ⟨hforward.trans hrun, (hframed _ _).1⟩
  · -- settling goes back to the mark, or leaves what the frame left, or stores code behind it
    obtain ⟨hleft, hdeposited⟩ := hframed (.ok ended) (host.settle p _ frame ended m₃).1
    have hback : m₁.store.ledger.Precedes m₃.store.ledger := hforward.trans hrun
    refine Accumulates.trans hbefore ?_
    rcases host.ledger_settle_cases hback p frame ended with
      hundone | hkept | ⟨hcreation, code, hstored⟩
    · exact h.sustained_of_eq hundone
    · refine ⟨?_, ?_⟩
      · rw [Journaled, hkept]
        exact hback
      · rw [hkept]
        exact hleft
    · refine ⟨?_, ?_⟩
      · rw [Journaled, hstored]
        exact hback.trans (Ledger.precedes_setCode _ _ _)
      · rw [hstored]
        exact hdeposited hcreation code

theorem dispatchWithin (h : host.Sustains due stands S) (hooks : host.env.IsTame)
    (hprograms : host.interpreter.ActsFromFrame) (bound : Nat) (p : Primitive)
    (m : Machine NoFaults) (hdue : due p m.store.ledger) :
    Sustained S [host.treeWithin bound p m] m (host.dispatchWithin bound p m).2 := by
  have hrespects : host.Respects Query.GoesForward (Journaled (φ := NoFaults)) :=
    respects_journaled_of_goesForward FaultModel.noFaults_sparesReverts hooks
  -- what is nested in a primitive runs within a smaller bound
  induction bound generalizing p m with
  | zero => exact h.sustained_of_eq rfl
  | succ bound ih =>
    have hjournaled := hrespects.dispatchWithin hprograms.goesForward bound
    exact h.primitive hooks hprograms hjournaled ih p m hdue

/-- **What every single step sustains, every primitive sustains along its tree**, if what is due
holds where it is dispatched. -/
theorem dispatch (h : host.Sustains due stands S) (hooks : host.env.IsTame)
    (hprograms : host.interpreter.ActsFromFrame) (p : Primitive) (m : Machine NoFaults)
    (hdue : due p m.store.ledger) : Sustained S [host.callTree p m] m (host.dispatch p m).2 :=
  h.dispatchWithin hooks hprograms _ p m hdue

end

end Sustains

end Host

end CallWatch
