import CallWatch.Proofs.Machine.Respects

/-!
# All or nothing

A primitive that fails leaves the accounts and the journal as they were when it started
(`Host.dispatch_undone`).  A creation may leave one more change: the raised nonce of its caller.

The statement holds behind every layer of faults that spares reverts, for every interpreter that
acts on the accounts only through the machine, and for all hooks of the environment that are
`IsTame`.  The preorder that carries it is `Journaled`: whatever runs inside a frame, the ledger
that was marked can still be restored.  So going back to the mark gives that ledger exactly, and
it remains to see that every failing exit of a primitive goes back.
-/

namespace CallWatch

open Run

/-- Checking whether an account can afford an amount changes nothing, and moving an amount takes
nothing back that was done before it. -/
structure Environment.IsTame (env : Environment) : Prop where
  canTransfer : ∀ a amount, (env.canTransfer a amount).OnlyReads
  transfer : ∀ sender receiver amount, (env.transfer sender receiver amount).GoesForward

/-- The hooks of an environment that sets none are tame. -/
theorem Environment.isTame_of_default {env : Environment} (hcan : env.canTransfer = .covers)
    (htransfer : env.transfer = .transfer) : env.IsTame where
  canTransfer := by rw [hcan]; exact Procedure.onlyReads_covers
  transfer := by rw [htransfer]; exact Procedure.goesForward_transfer

/-- What a primitive without effect may leave of a ledger: the ledger itself, or, if it is a
creation, the ledger with the nonce of the caller raised by one. -/
inductive Primitive.Leaves (p : Primitive) (l : Ledger) : Ledger → Prop
  | same : Leaves p l l
  | raised {caller : Address} {code : Bytes} {gas : UInt64} {value : Word} {next : UInt64}
      (hp : p = .create caller code gas value)
      (hnext : next.toNat = (l.accounts.get caller).nonce.toNat + 1) :
      Leaves p l (l.setNonce caller next)

theorem Primitive.Leaves.precedes {p : Primitive} {l l' : Ledger} (h : p.Leaves l l') :
    l.Precedes l' := by
  cases h with
  | same => exact .refl l
  | raised => exact Ledger.precedes_setNonce l _ _

/-- Whether a primitive creates a contract. -/
def Primitive.IsCreation : Primitive → Prop
  | .create _ _ _ _ => True
  | .call _ _ _ _ _ | .callCode _ _ _ _ _ | .delegateCall _ _ _ _ => False

/-- A primitive ended with a failure, as a stop or in its outcome.  There is one exception: before
the Homestead fork, a creation that cannot pay for its code keeps its changes. -/
inductive Primitive.Failed (rules : Rules) (p : Primitive) : Except Stop Outcome → Prop
  | stop (failure : Failure) : Failed rules p (.error (.failed failure))
  | outcome {outcome : Outcome} {failure : Failure} (hresult : outcome.result = .reverted failure)
      (hundone : ¬(p.IsCreation ∧ failure = .codeStoreOutOfGas ∧ rules.isHomestead = false)) :
      Failed rules p (.ok outcome)

namespace Host

variable {φ : Type}

/-! ### Two preorders -/

/-- The accounts and the journal are the same. -/
def SameLedger (m m' : Machine φ) : Prop :=
  m'.store.ledger = m.store.ledger

instance : IsPreorder (Machine φ) SameLedger where
  refl _ := rfl
  trans _ _ _ h h' := Eq.trans h' h

/-- The later ledger can be taken back to the earlier one. -/
def Journaled (m m' : Machine φ) : Prop :=
  m.store.ledger.Precedes m'.store.ledger

instance : IsPreorder (Machine φ) Journaled where
  refl _ := .refl _
  trans _ _ _ h h' := h.trans h'

variable {host : Host} {m m' : Machine φ}

theorem keeps_sameLedger_flagThrow : Keeps (φ := φ) SameLedger host.flagThrow :=
  Respects.keeps_tell fun _ _ _ => rfl

variable [FaultModel φ]

theorem keeps_sameLedger_read (op : StoreOp) (hop : op.IsRead) :
    Keeps (φ := φ) SameLedger (store op) :=
  .store fun m => m.store.ledger_perform_of_isRead op hop

theorem keeps_journaled_store {op : StoreOp} (hop : ∀ mark, op ≠ .revert mark) :
    Keeps (φ := φ) Journaled (store op) :=
  .store fun _ => Store.precedes_perform (.refl _) fun mark h => (hop mark h).elim

/-! ### Setting up -/

theorem keeps_sameLedger_refusal? (hooks : host.env.IsTame) (caller : Address) (gas : UInt64)
    (value? : Option Word) : Keeps (φ := φ) SameLedger (host.refusal? caller gas value?) :=
  keeps_refusal? (fun a amount => .perform fun m => hooks.canTransfer a amount m.store) _ _ _

/-- Raises the nonce of an account, and goes on with the one before. -/
def raisingNonce {α : Type} (a : Address) (f : UInt64 → Run φ α) : Run φ α := do
  let nonce ← store (.getNonce a)
  match Checked.add nonce 1 with
  | none => fail (.internal .overflow)
  | some next =>
    store (.setNonce a next)
    f nonce

theorem takeAccount_create (caller : Address) (code : Bytes) (gas : UInt64) (value : Word) :
    takeAccount (φ := φ) (.create caller code gas value) =
      raisingNonce caller fun nonce => pure (contractAddress caller nonce) :=
  rfl

/-- **Raising a nonce** fails without effect, or what follows starts on the raised nonce. -/
theorem raisingNonce_cases {α : Type} (a : Address) (f : UInt64 → Run φ α) (m : Machine φ) :
    (∃ failure m', raisingNonce a f m = (.error (.failed failure), m') ∧ SameLedger m m') ∨
      ∃ next m', raisingNonce a f m = f (m.store.ledger.accounts.get a).nonce m' ∧
        next.toNat = (m.store.ledger.accounts.get a).nonce.toNat + 1 ∧
        m'.store.ledger = m.store.ledger.setNonce a next := by
  have hread : (m.store.perform (.getNonce a)).2.ledger = m.store.ledger :=
    m.store.ledger_perform_of_isRead (.getNonce a) trivial
  rw [raisingNonce, bind_apply, store_apply]
  rcases hget : m.store.perform (.getNonce a) with ⟨fault | nonce, s⟩
  all_goals rw [hget] at hread
  · exact .inl ⟨_, _, rfl, hread⟩
  have hnonce : nonce = (m.store.ledger.accounts.get a).nonce := by
    have hl := (Store.perform_of_ok (by rw [hget])).1
    exact (Except.ok.inj hl).symm
  dsimp only [ofStore, Except.mapError]
  cases hnext : Checked.add nonce 1 with
  | none => exact .inl ⟨_, _, rfl, hread⟩
  | some next =>
    dsimp only
    rw [bind_apply, store_apply]
    rcases Store.perform_cases s (.setNonce a next) with ⟨fault, faults, hset⟩ | ⟨faults, hset⟩
    all_goals rw [hset]
    · -- the layer refused to write the nonce
      exact .inl ⟨_, _, rfl, hread⟩
    · refine .inr ⟨next, _, by rw [← hnonce]; rfl, ?_, ?_⟩
      · rw [← hnonce]
        exact Checked.add_eq_some_iff.1 hnext
      · show s.ledger.setNonce a next = _
        rw [hread]

/-- Taking the account of a frame raises at most one nonce. -/
theorem leaves_takeAccount (p : Primitive) (m : Machine φ) :
    p.Leaves m.store.ledger (takeAccount p m).2.store.ledger := by
  cases p with
  | call | callCode | delegateCall => exact .same
  | create caller code gas value =>
    rw [takeAccount_create]
    rcases raisingNonce_cases caller (fun nonce => pure (contractAddress caller nonce)) m with
      ⟨failure, m', h, hsame⟩ | ⟨next, m', h, hnext, hraised⟩
    · rw [h, show m'.store.ledger = _ from hsame]
      exact .same
    · rw [h, pure_apply, hraised]
      exact .raised rfl hnext

/-- A target that is left missing is left alone. -/
theorem sameLedger_of_ensureTarget {target : Address} {value : Word}
    (h : host.ensureTarget target value m = (.ok false, m')) : SameLedger m m' := by
  rw [ensureTarget, bind_eq_ok_iff] at h
  obtain ⟨isThere, m₁, hexist, h⟩ := h
  have hread := keeps_sameLedger_read (.exist target) trivial m
  rw [hexist] at hread
  split at h
  · cases h
  split at h
  · cases h
    exact hread
  · rw [bind_eq_ok_iff] at h
    obtain ⟨_, _, _, h⟩ := h
    cases h

theorem keeps_journaled_enterFrame (hooks : host.env.IsTame) (account : Address) (p : Primitive) :
    Keeps (φ := φ) Journaled (host.enterFrame account p) := by
  refine keeps_enterFrame (fun op hop => keeps_journaled_store fun mark h => ?_)
    (fun sender receiver amount => .perform fun m => hooks.transfer sender receiver amount m.store)
    account p
  rw [h] at hop
  exact hop.elim

/-- Where no frame is set up, nothing was changed. -/
theorem sameLedger_of_enterFrame {account : Address} {p : Primitive}
    (h : host.enterFrame account p m = (.ok none, m')) : SameLedger m m' := by
  cases p with
  | call caller target input gas value =>
    rw [enterFrame, bind_eq_ok_iff] at h
    obtain ⟨isThere, m₁, hensure, h⟩ := h
    cases isThere with
    | false =>
      cases h
      exact sameLedger_of_ensureTarget hensure
    | true =>
      -- behind the transfer a frame is always set up
      simp only [if_true, bind_eq_ok_iff] at h
      obtain ⟨_, _, _, _, _, _, _, _, _, h⟩ := h
      cases h
  | callCode | delegateCall =>
    simp only [enterFrame, bind_eq_ok_iff] at h
    obtain ⟨_, _, _, _, _, _, h⟩ := h
    cases h
  | create caller code gas value =>
    rw [enterFrame, bind_eq_ok_iff] at h
    obtain ⟨_, _, _, h⟩ := h
    split at h <;> simp only [bind_eq_ok_iff] at h
    · obtain ⟨_, _, _, _, _, _, _, _, _, h⟩ := h
      cases h
    · obtain ⟨_, _, _, _, _, _, h⟩ := h
      cases h

/-- What setting up a primitive may make of a ledger.  Where it ends, it leaves the ledger as a
primitive without effect may; where a frame is ready, such a ledger was marked and can be gone back
to. -/
def SetsUp (p : Primitive) (l : Ledger) : Except Stop Setup × Machine φ → Prop
  | (.ok (.over _), m') => p.Leaves l m'.store.ledger
  | (.ok (.ready mark _), m') =>
    ∃ l₀ : Ledger, mark = l₀.snapshot ∧ p.Leaves l l₀ ∧ l₀.Precedes m'.store.ledger
  | (.error (.failed _), m') => p.Leaves l m'.store.ledger
  | (.error _, m') => l.Precedes m'.store.ledger

omit [FaultModel φ] in
theorem SetsUp.precedes {p : Primitive} {l : Ledger} {ended : Except Stop Setup × Machine φ}
    (h : SetsUp p l ended) : l.Precedes ended.2.store.ledger := by
  match ended, h with
  | (.ok (.over _), _), h | (.error (.failed _), _), h => exact Primitive.Leaves.precedes h
  | (.ok (.ready _ _), _), ⟨_, _, hleaves, hforward⟩ => exact hleaves.precedes.trans hforward
  | (.error (.panicked _), _), h | (.error .exhausted, _), h => exact h

variable (hφ : FaultModel.SparesReverts φ)

include hφ

theorem setsUp_prepare (hooks : host.env.IsTame) {p : Primitive} {l : Ledger} (account : Address)
    (hl : p.Leaves l m.store.ledger) : SetsUp p l (host.prepare account p m) := by
  have hforward := keeps_journaled_enterFrame hooks account p m
  rw [prepare, bind_of_ok (snapshot_apply m), bind_apply]
  rcases undoOnFailure_cases hφ hforward with ⟨hsame, hno⟩ | ⟨failure, -, hundone⟩
  · rw [hsame]
    rcases he : host.enterFrame account p m with ⟨stop | frame?, m₁⟩
    all_goals rw [he] at hforward hno
    · cases stop with
      | failed failure => exact (hno failure rfl).elim
      | panicked | exhausted => exact hl.precedes.trans hforward
    · cases frame? with
      | none =>
        show p.Leaves l m₁.store.ledger
        rw [sameLedger_of_enterFrame he]
        exact hl
      | some frame => exact ⟨m.store.ledger, rfl, hl, hforward⟩
  · -- a setup that failed is back at its mark, behind the raised nonce
    rw [hundone]
    exact hl

theorem setsUp_setUp (hooks : host.env.IsTame) (p : Primitive) (m : Machine φ) :
    SetsUp p m.store.ledger (host.setUp p m) := by
  have hrefusal := keeps_sameLedger_refusal? hooks p.payer p.gas p.value? m
  rw [setUp, bind_apply]
  rcases hr : host.refusal? p.payer p.gas p.value? m with ⟨stop | outcome?, m₁⟩
  all_goals
    rw [hr] at hrefusal
    have hsame : p.Leaves m.store.ledger m₁.store.ledger := by
      rw [show m₁.store.ledger = _ from hrefusal]
      exact .same
  · cases stop with
    | failed failure => exact hsame
    | panicked | exhausted => exact hsame.precedes
  · cases outcome? with
    | some outcome => exact hsame
    | none =>
      dsimp only
      have htake := leaves_takeAccount p m₁
      rw [show m₁.store.ledger = _ from hrefusal] at htake
      rw [bind_apply]
      rcases ht : takeAccount p m₁ with ⟨stop | account, m₂⟩
      all_goals rw [ht] at htake
      · cases stop with
        | failed failure => exact htake
        | panicked | exhausted => exact htake.precedes
      · exact setsUp_prepare hφ hooks account htake

/-! ### Running -/

/-- Every step of a run can be taken back. -/
theorem respects_journaled (hooks : host.env.IsTame) :
    host.Respects Query.IsConfined (Journaled (φ := φ)) := by
  refine .of_store ?alone ?read ?setState ?setCode ?setUp ?mark ?rewind
  case alone =>
    intro m m' h
    rw [Journaled, h]
    exact .refl _
  case read =>
    intro op hop m
    rw [Journaled, m.store.ledger_perform_of_isRead op hop]
    exact .refl _
  case setState => exact fun _ _ _ m => Store.precedes_perform (.refl _) fun _ h => by cases h
  case setCode => exact fun _ _ m => Store.precedes_perform (.refl _) fun _ h => by cases h
  case setUp => exact fun p m => (setsUp_setUp hφ hooks p m).precedes
  case mark =>
    intro p m m' mark frame h
    have hsets := setsUp_setUp hφ hooks p m
    rw [h] at hsets
    obtain ⟨l₀, rfl, hleaves, hforward⟩ := hsets
    exact ⟨{ m with store := { m.store with ledger := l₀ } }, rfl, hleaves.precedes, hforward⟩
  case rewind =>
    intro m₀ m h
    rw [revert_apply hφ h]
    exact .refl _

/-- It can be taken back also if programs write to the store directly, as long as they do not go
back in it. -/
theorem respects_journaled_of_goesForward (hooks : host.env.IsTame) :
    host.Respects Query.GoesForward (Journaled (φ := φ)) :=
  { respects_journaled hφ hooks with
    reply := fun nested q hq hd => by
      cases q with
      | store op =>
        refine .ask fun m => Store.precedes_perform (.refl _) fun mark h => ?_
        rw [h] at hq
        exact hq.elim
      | _ => exact (respects_journaled hφ hooks).reply nested _ trivial hd }

/-! ### Settling -/

variable {l : Ledger}

theorem rollBack_eq (hl : l.Precedes m.store.ledger) (frame : Frame) (failure : Failure) :
    rollBack l.snapshot frame failure m =
      (.ok (), { m.backTo l with
        log := m.log.enter (.close 0 frame.depth (some failure.message)) }) :=
  bind_of_ok (revert_apply hφ hl) _

/-- A call whose frame failed is back at its mark, whether or not the failure becomes its
outcome. -/
theorem ledger_settleCall (hl : l.Precedes m.store.ledger) (frame : Frame) {ended : FrameEnd}
    {failure : Failure} (hended : ended.result = .error failure) :
    (host.settleCall l.snapshot frame ended m).2.store.ledger = l := by
  rw [settleCall, hended]
  dsimp only
  rw [bind_of_ok (rollBack_eq hφ hl frame failure)]
  split
  · rfl
  · -- what is left to do tells the watchdogs only
    exact (Keeps.bind keeps_sameLedger_flagThrow fun _ => .pure _) _

/-- **Code that cannot be stored is taken back at once**, and otherwise the mark can still be gone
back to. -/
theorem depositCode_cases (hl : l.Precedes m.store.ledger) (a : Address) (ended : FrameEnd) :
    (∃ failure m', depositCode l.snapshot a ended m = (.error (.failed failure), m') ∧
        m'.store.ledger = l) ∨
      (∀ failure, (depositCode l.snapshot a ended m).1 ≠ .error (.failed failure)) ∧
        l.Precedes (depositCode l.snapshot a ended m).2.store.ledger := by
  have hsame (answer : Option Failure × UInt64) :
      (∀ failure, ((pure answer : Run φ _) m).1 ≠ .error (.failed failure)) ∧
        l.Precedes ((pure answer : Run φ _) m).2.store.ledger := by
    refine ⟨fun failure h => ?_, hl⟩
    cases h
  unfold depositCode
  cases ended.result with
  | error failure => exact .inr (hsame _)
  | ok code =>
    dsimp only
    split
    · exact .inr (hsame _)
    cases Checked.sub ended.gasLeft (Checked.saturate (codeBytePrice * code.length)) with
    | none => exact .inr (hsame _)
    | some left =>
      have hforward : l.Precedes (store (.setCode a code) m).2.store.ledger :=
        hl.trans (keeps_journaled_store (fun _ h => by cases h) m)
      dsimp only
      rw [bind_apply]
      rcases undoOnFailure_cases hφ hforward with ⟨hstored, hno⟩ | ⟨failure, -, hundone⟩
      · right
        rw [hstored]
        rcases hx : store (.setCode a code) m with ⟨stop | _, m₁⟩
        all_goals rw [hx] at hforward hno
        all_goals refine ⟨fun failure h => ?_, hforward⟩
        · cases h
          exact hno failure rfl
        · cases h
      · exact .inl ⟨failure, _, by rw [hundone], rfl⟩

omit [FaultModel φ] hφ in
/-- Closing a creation always works: it leaves the store alone and enters the event that closes the
frame. -/
theorem closeCreation_eq (frame : Frame) (ended : FrameEnd) (failure? : Option Failure)
    (gasLeft : UInt64) (m : Machine φ) :
    ∃ m', host.closeCreation frame ended failure? gasLeft m =
        (.ok {
          result := failure?.elim .success .reverted
          gasLeft
          output :=
            if failure?.isSome || decide (maxCodeSize < ended.output.length) then []
            else ended.output
          created := some frame.account }, m') ∧
      m'.store = m.store ∧
      m'.log = m.log.enter (.close gasLeft frame.depth (failure?.map (·.message))) := by
  cases failure? with
  | none => exact ⟨_, rfl, rfl, rfl⟩
  | some failure =>
    unfold closeCreation flagThrow tell
    cases host.env.txHash <;> exact ⟨_, rfl, rfl, rfl⟩

omit hφ in
theorem of_undoesCreation_eq_false {code : Bytes} {failure : Failure}
    (h : host.undoesCreation code (some failure) = false) :
    failure = .codeStoreOutOfGas ∧ host.rules.isHomestead = false := by
  simp only [undoesCreation, Option.any_some, Bool.or_eq_false_iff, bne_eq_false_iff_eq] at h
  exact ⟨h.2.2, h.2.1⟩

theorem ledger_concludeCreation (hl : l.Precedes m.store.ledger) {p : Primitive}
    (hp : p.IsCreation) (frame : Frame) (ended : FrameEnd)
    (h : p.Failed host.rules (host.concludeCreation l.snapshot frame ended m).1) :
    (host.concludeCreation l.snapshot frame ended m).2.store.ledger = l := by
  rw [concludeCreation, bind_apply] at h ⊢
  rcases depositCode_cases hφ hl frame.account ended with ⟨failure, m', hd, hm'⟩ | ⟨hno, hforward⟩
  · rw [hd]
    exact hm'
  rcases hd : depositCode l.snapshot frame.account ended m with ⟨stop | ⟨failure?, left⟩, m₁⟩
  all_goals rw [hd] at h hno hforward
  · cases stop with
    | failed failure => exact (hno failure rfl).elim
    | panicked | exhausted => cases h
  · dsimp only at h ⊢
    cases hundone : host.undoesCreation ended.output failure? with
    | true =>
      -- code that was stored before is taken back with everything else
      obtain ⟨m', hclose, hm', -⟩ :=
        host.closeCreation_eq frame ended failure? 0 (m₁.backTo l)
      rw [if_pos rfl, bind_of_ok (revert_apply hφ hforward), hclose]
      exact congrArg Store.ledger hm'
    | false =>
      -- the creation stands, so it has not failed
      obtain ⟨m', hclose, -⟩ := host.closeCreation_eq frame ended failure? left m₁
      rw [hundone, if_neg Bool.false_ne_true, hclose] at h
      cases h with
      | outcome hfailure hundone' =>
        cases failure? with
        | none => cases hfailure
        | some _ =>
          cases hfailure
          exact (hundone' ⟨hp, host.of_undoesCreation_eq_false hundone⟩).elim

theorem ledger_settleCreation (hl : l.Precedes m.store.ledger) {p : Primitive}
    (hp : p.IsCreation) (frame : Frame) (ended : FrameEnd)
    (h : p.Failed host.rules (host.settleCreation l.snapshot frame ended m).1) :
    (host.settleCreation l.snapshot frame ended m).2.store.ledger = l := by
  unfold settleCreation at h ⊢
  cases hended : ended.result with
  | ok output =>
    rw [hended] at h
    exact ledger_concludeCreation hφ hl hp frame ended h
  | error failure =>
    rw [hended] at h
    dsimp only at h ⊢
    split
    · rw [bind_of_ok (rollBack_eq hφ hl frame failure)]
      rfl
    · next hpropagates =>
      rw [if_neg hpropagates] at h
      exact ledger_concludeCreation hφ hl hp frame ended h

/-- **A failing primitive goes back to its mark.** -/
theorem ledger_settle (hl : l.Precedes m.store.ledger) (p : Primitive) (frame : Frame)
    (ended : FrameEnd) (h : p.Failed host.rules (host.settle p l.snapshot frame ended m).1) :
    (host.settle p l.snapshot frame ended m).2.store.ledger = l := by
  cases p with
  | create caller code gas value =>
    exact ledger_settleCreation (p := .create caller code gas value) hφ hl trivial frame ended h
  | call | callCode | delegateCall =>
    cases hended : ended.result with
    | error failure => exact ledger_settleCall hφ hl frame hended
    | ok output =>
      simp only [settle, settleCall, hended] at h
      cases h with
      | outcome hfailure => cases hfailure

/-! ### Primitives -/

/-- A primitive that fails is undone if whatever its program does can be taken back. -/
theorem primitive_undone_of_respects (hooks : host.env.IsTame) {allowed : Query → Prop}
    (hrespects : host.Respects allowed (Journaled (φ := φ)))
    (hprograms : host.interpreter.Only allowed)
    {nested : Primitive → Run φ Outcome} (hnested : ∀ p, Keeps Journaled (nested p))
    {p : Primitive} (h : p.Failed host.rules (host.primitive nested p m).1) :
    p.Leaves m.store.ledger (host.primitive nested p m).2.store.ledger := by
  have hsets := setsUp_setUp hφ hooks p m
  rw [primitive, bind_apply] at h ⊢
  rcases hs : host.setUp p m with ⟨stop | outcome | ⟨mark, frame⟩, m₁⟩
  all_goals rw [hs] at h hsets
  · cases stop with
    | failed failure => exact hsets
    | panicked | exhausted => cases h
  · exact hsets
  · obtain ⟨l, rfl, hleaves, hmark⟩ := hsets
    have hframe := hrespects.runFrame hnested hprograms frame frame.calldata m₁
    dsimp only at h ⊢
    rw [bind_apply] at h ⊢
    rcases hf : host.runFrame nested frame frame.calldata m₁ with ⟨stop | ended, m₂⟩
    all_goals rw [hf] at h hframe
    · cases stop with
      | failed failure =>
        -- failures of a frame end it, they do not stop the primitive
        exact (neverFails_runFrame nested frame frame.calldata m₁ _ (by rw [hf]) failure rfl).elim
      | panicked | exhausted => cases h
    · rw [ledger_settle hφ (hmark.trans hframe) p frame ended h]
      exact hleaves

theorem primitive_undone (hooks : host.env.IsTame) (hprograms : host.interpreter.IsConfined)
    {nested : Primitive → Run φ Outcome} (hnested : ∀ p, Keeps Journaled (nested p))
    {p : Primitive} (h : p.Failed host.rules (host.primitive nested p m).1) :
    p.Leaves m.store.ledger (host.primitive nested p m).2.store.ledger :=
  primitive_undone_of_respects hφ hooks (respects_journaled hφ hooks) hprograms hnested h

/-- A primitive that fails is undone also if programs write to the store directly, as long as they
do not go back in it. -/
theorem undone_of_goesForward (hooks : host.env.IsTame)
    (hprograms : host.interpreter.Only Query.GoesForward) (p : Primitive) (m : Machine φ)
    (h : p.Failed host.rules (host.dispatch p m).1) :
    p.Leaves m.store.ledger (host.dispatch p m).2.store.ledger :=
  have hrespects := respects_journaled_of_goesForward hφ hooks
  primitive_undone_of_respects hφ hooks hrespects hprograms
    (hrespects.dispatchWithin hprograms (nestingBound - 1)) h

/-- **A primitive that fails leaves the accounts and the journal as they were**, apart from the
nonce of the caller of a creation, whatever was nested in it. -/
theorem dispatch_undone (hooks : host.env.IsTame) (hprograms : host.interpreter.IsConfined)
    (p : Primitive) (m : Machine φ) (h : p.Failed host.rules (host.dispatch p m).1) :
    p.Leaves m.store.ledger (host.dispatch p m).2.store.ledger :=
  primitive_undone hφ hooks hprograms
    ((respects_journaled hφ hooks).dispatchWithin hprograms (nestingBound - 1)) h

end Host

/-- Every frame writes two slots and ends as the second write does. -/
def Interpreter.twoWrites : Interpreter := fun frame _ =>
  .ask (.storeWord frame.account 1 7) fun _ =>
    .ask (.storeWord frame.account 2 7) fun answer =>
      .done { result := answer.map fun _ => [], gasLeft := frame.gasRemaining }

theorem Interpreter.isConfined_twoWrites : twoWrites.IsConfined :=
  fun _ _ => ⟨trivial, fun _ => ⟨trivial, fun _ => trivial⟩⟩

namespace Host

/-- A host whose frames write two slots each. -/
def ofTwoWrites : Host where
  rules := ChainConfig.rules (.allForksActive 1) 0
  interpreter := .twoWrites

/-- A machine whose store refuses every write of a slot after the first. -/
def oneWriteLeft : Machine (Sparing FaultPlan) where
  store := {
    ledger := Ledger.seed {} 9 { code := [1], storage := Std.ExtTreeMap.insert ∅ 1 3 }
    faults := { faults := { faults := [{ method := .setState, after := 1 }] } } }
  pair := .disabled

theorem dispatch_undone_twoWrites :
    (Primitive.call 1 9 [] 10 0).Failed ofTwoWrites.rules
        (ofTwoWrites.dispatch (.call 1 9 [] 10 0) oneWriteLeft).1 ∧
      (Primitive.call 1 9 [] 10 0).Leaves oneWriteLeft.store.ledger
        (ofTwoWrites.dispatch (.call 1 9 [] 10 0) oneWriteLeft).2.store.ledger := by
  have hended : (ofTwoWrites.dispatch (.call 1 9 [] 10 0) oneWriteLeft).1 =
      .error (.failed (.store (.other "down"))) := by
    decide +kernel
  have hfailed : (Primitive.call 1 9 [] 10 0).Failed ofTwoWrites.rules
      (ofTwoWrites.dispatch (.call 1 9 [] 10 0) oneWriteLeft).1 := by
    rw [hended]
    exact .stop _
  exact ⟨hfailed, dispatch_undone (FaultModel.sparing_sparesReverts FaultPlan)
    (Environment.isTame_of_default rfl rfl) Interpreter.isConfined_twoWrites _ _ hfailed⟩

end Host

end CallWatch
