import CallWatch.Proofs.Machine.Codeless
import CallWatch.Proofs.Machine.LateFailure
import CallWatch.Proofs.Machine.Logging
import CallWatch.Proofs.Machine.Refusal
import CallWatch.Proofs.Machine.Steadiness

/-!
# What creation transactions report

A creation transaction that was executed reports the address of a contract, or none
(`Host.deploys_execute`).  The address that it reports is mostly that of an account with the output
as its code.  There are two exceptions.  Code that is too large is not stored and the creation is
taken back, but that counts as a success, and so its address is reported.  And a creation that was
not run at all counts as a success with the address zero.

Without an address, the creation failed and was taken back, or, before the Homestead fork, could not
pay for its code.  Then the account stays, without code.
-/

namespace CallWatch

open CallTree Run

/-- The address of the next contract that an account creates. -/
def Ledger.nextContract (l : Ledger) (creator : Address) : Address :=
  contractAddress creator (l.accounts.get creator).nonce

/-- What an executed transaction reports is what the outcome of its root primitive says. -/
structure Execution.Reports (execution : Execution) (outcome : Outcome) : Prop where
  result : execution.result = outcome.result
  output : execution.output = outcome.output
  contractAddress : execution.contractAddress =
    if outcome.result.isSuccess then outcome.created else none
  receipt : execution.receipt.contractAddress = execution.contractAddress

namespace Execution.Reports

variable {execution : Execution} {outcome : Outcome}

theorem address_of_success (h : execution.Reports outcome) (hresult : outcome.result = .success) :
    execution.contractAddress = outcome.created := by
  rw [h.contractAddress, hresult]
  rfl

theorem address_of_reverted (h : execution.Reports outcome) {failure : Failure}
    (hresult : outcome.result = .reverted failure) : execution.contractAddress = none := by
  rw [h.contractAddress, hresult]
  rfl

end Execution.Reports

namespace Host

variable {host : Host} {tx : Transaction}

/-! ### From the transaction to its root -/

theorem keeps_sameDepth_arm {φ : Type} [FaultModel φ] (tx : Transaction) :
    Keeps (φ := φ) SameDepth (arm tx) := by
  refine keeps_arm (fun kind op m => ?_) tx
  obtain ⟨balance, store, hop⟩ := watchdog_apply kind op m
  rw [hop]
  rfl

/-- A transaction that was executed reports the outcome of its run, and nothing after the run
changes an account. -/
theorem exists_run_of_execute {φ : Type} [FaultModel φ] {m m' : Machine φ} {execution : Execution}
    (h : host.execute tx m = (.ok execution, m')) :
    ∃ outcome m₁ m₂, arm tx m = (.ok (), m₁) ∧ host.runRoot tx m₁ = (.ok outcome, m₂) ∧
      SameLedger m₂ m' ∧ execution.Reports outcome := by
  unfold execute at h
  split at h
  case isFalse => cases h
  obtain ⟨_, m₁, harm, h⟩ := bind_eq_ok_iff.1 h
  obtain ⟨answer, m₂, hattempt, h⟩ := bind_eq_ok_iff.1 h
  cases answer with
  | error failure =>
    obtain ⟨_, _, _, h⟩ := bind_eq_ok_iff.1 h
    obtain ⟨_, _, _, h⟩ := bind_eq_ok_iff.1 h
    cases h
  | ok outcome =>
    have hsame : SameLedger m₂ m' := (keeps_sameLedger_conclude tx outcome).rel_of_eq h
    refine ⟨outcome, m₁, m₂, harm, eq_ok_of_attempt hattempt, hsame, ?_⟩
    obtain ⟨_, _, _, h⟩ := bind_eq_ok_iff.1 h
    cases hgas : Checked.sub tx.gasLimit outcome.gasLeft with
    | none =>
      rw [hgas] at h
      cases h
    | some gasUsed =>
      rw [hgas] at h
      obtain ⟨fault?, _, _, h⟩ := bind_eq_ok_iff.1 h
      cases fault? with
      | some fault => cases h
      | none =>
        cases h
        exact ⟨rfl, rfl, rfl, rfl⟩

/-- The root of a creation transaction is a creation. -/
theorem root_create (hkind : tx.kind = .create) :
    root tx = .create tx.sender tx.data tx.gasLimit tx.value := by
  rw [root, hkind]

variable {m m' : Machine NoFaults}

/-! ### The frame of a creation -/

section

variable {caller : Address} {code : Bytes} {gas : UInt64} {value : Word}

/-- A creation that got no frame was not run, as nothing may be nested, or it failed. -/
theorem over_of_setUp_create {outcome : Outcome}
    (h : host.setUp (.create caller code gas value) m = (.ok (.over outcome), m')) :
    (host.config.noRecursion = true ∧ 0 < m.depth) ∧ outcome.result = .success ∧
        outcome.output = [] ∧ outcome.created = some 0 ∧ m' = m ∨
      ∃ failure, outcome.result = .reverted failure := by
  obtain ⟨outcome?, m₁, hrefusal, h⟩ := bind_eq_ok_iff.1 h
  cases outcome? with
  | none =>
    -- the setup of a creation ends with a frame or fails
    obtain ⟨account, m₂, _, h⟩ := bind_eq_ok_iff.1 h
    rw [prepare, bind_of_ok (snapshot_apply m₂)] at h
    obtain ⟨frame?, m₃, hundo, h⟩ := bind_eq_ok_iff.1 h
    have hidle := isIdle_iff (eq_ok_of_undoOnFailure hundo)
    cases frame? with
    | none =>
      obtain ⟨_, _, _, _, hp, _⟩ := hidle.2 rfl
      cases hp
    | some frame => cases h
  | some refused =>
    cases h
    unfold refusal? at hrefusal
    rw [bind_of_ok (get_apply m)] at hrefusal
    by_cases hnested : host.config.noRecursion = true ∧ 0 < m.depth
    · rw [if_pos hnested] at hrefusal
      cases hrefusal
      exact .inl ⟨hnested, rfl, rfl, rfl, rfl⟩
    rw [if_neg hnested] at hrefusal
    right
    split at hrefusal
    · cases hrefusal
      exact ⟨_, rfl⟩
    · obtain ⟨covered, m₁, _, hrefusal⟩ := bind_eq_ok_iff.1 hrefusal
      cases covered with
      | true => cases hrefusal
      | false =>
        cases hrefusal
        exact ⟨_, rfl⟩

/-- The address of a creation is derived from the nonce before it was raised. -/
theorem account_of_takeAccount_create {account : Address}
    (h : takeAccount (.create caller code gas value) m = (.ok account, m')) :
    account = m.store.ledger.nextContract caller := by
  rw [takeAccount_create] at h
  rcases raisingNonce_cases caller (fun nonce => pure (contractAddress caller nonce)) m with
    ⟨_, _, hraise, -⟩ | ⟨_, _, hraise, -⟩
  all_goals rw [hraise] at h
  · cases h
  · exact (Except.ok.inj (congrArg Prod.fst h)).symm

/-- A new account has no code, and setting up the rest of its frame gives it none. -/
theorem codeAt_enterFrame_create (hooks : host.env.SparesCode) {account : Address}
    {frame? : Option Frame}
    (h : host.enterFrame account (.create caller code gas value) m = (.ok frame?, m')) :
    m'.store.ledger.codeAt account = [] := by
  obtain ⟨_, m₁, hcreate, h⟩ := bind_eq_ok_iff.1 h
  have hnone : m₁.store.ledger.codeAt account = [] := by
    cases hcreate
    exact (Ledger.codeAt_createAccount _ _ _).trans (if_pos rfl)
  have htransfer : Keeps (Codeless account) (perform (φ := NoFaults)
      (host.env.transfer caller account value)) :=
    .perform fun m => hooks.code caller account value m.store account
  split at h
  · obtain ⟨_, m₂, hnonce, h⟩ := bind_eq_ok_iff.1 h
    obtain ⟨_, m₃, hmoved, h⟩ := bind_eq_ok_iff.1 h
    cases h
    have hraised : Codeless account m₁ m₂ :=
      (keeps_codeless_of_isSetup (show (StoreOp.setNonce account 1).IsSetup from trivial)).rel_of_eq
        hnonce
    exact htransfer.rel_of_eq hmoved (hraised hnone)
  · obtain ⟨_, m₃, hmoved, h⟩ := bind_eq_ok_iff.1 h
    cases h
    exact htransfer.rel_of_eq hmoved hnone

/-- **The frame of a creation acts on a new account**, which has no code yet. -/
theorem frame_of_setUp_create (hooks : host.env.SparesCode) {mark : Nat} {frame : Frame}
    (h : host.setUp (.create caller code gas value) m = (.ok (.ready mark frame), m')) :
    frame.account = m.store.ledger.nextContract caller ∧
      m'.store.ledger.codeAt frame.account = [] := by
  obtain ⟨outcome?, m₁, hrefusal, h⟩ := bind_eq_ok_iff.1 h
  have hsame : SameLedger m m₁ :=
    (keeps_sameLedger_refusal? hooks.toIsTame caller gas (some value)).rel_of_eq hrefusal
  cases outcome? with
  | some outcome => cases h
  | none =>
    obtain ⟨account, m₂, htake, h⟩ := bind_eq_ok_iff.1 h
    rw [prepare, bind_of_ok (snapshot_apply m₂)] at h
    obtain ⟨frame?, m₃, hundo, h⟩ := bind_eq_ok_iff.1 h
    cases frame? with
    | none => cases h
    | some frame =>
      have hentered := eq_ok_of_undoOnFailure hundo
      obtain ⟨hframe, -⟩ := account_depth_of_enterFrame hentered
      have hnone := codeAt_enterFrame_create hooks hentered
      cases h
      rw [hframe]
      refine ⟨?_, hnone⟩
      rw [account_of_takeAccount_create htake, show m₁.store.ledger = _ from hsame]

end

/-! ### The main statement -/

/-- What a creation transaction reports that was executed, and the ledger that it leaves. -/
inductive Deploys (host : Host) (tx : Transaction) (m : Machine NoFaults) (execution : Execution) :
    Ledger → Prop
  /-- The new account has the output as its code. -/
  | deployed {l : Ledger} {a : Address} (hresult : execution.result = .success)
      (haddress : execution.contractAddress = some a)
      (hderived : a = m.store.ledger.nextContract tx.sender) (hexists : a ∈ l.accounts)
      (hcode : l.codeAt a = execution.output) : Deploys host tx m execution l
  /-- The code was too large, and nothing is left of the account that is reported. -/
  | oversized {l : Ledger} {m₁ : Machine NoFaults} {frame : Frame} {nested : List CallTree}
      {ended : FrameEnd} {outcome : Outcome} (hresult : execution.result = .success)
      (haddress : execution.contractAddress = some (m.store.ledger.nextContract tx.sender))
      (houtput : execution.output = []) (harm : arm tx m = (.ok (), m₁))
      (htree : host.callTree (root tx) m₁ =
        .framed (root tx) frame nested (.ok ended) (.ok outcome))
      (hsize : maxCodeSize < ended.output.length)
      (hleaves : host.interpreter.Only Query.GoesForward → tx.Leaves m.store.ledger l) :
      Deploys host tx m execution l
  /-- Nothing may be nested, and so nothing was run. -/
  | unrun (hresult : execution.result = .success) (haddress : execution.contractAddress = some 0)
      (houtput : execution.output = []) (hconfig : host.config.noRecursion = true)
      (hdepth : 0 < m.depth) : Deploys host tx m execution m.store.ledger
  /-- The creation failed and was taken back. -/
  | failed {l : Ledger} {failure : Failure} (hresult : execution.result = .reverted failure)
      (haddress : execution.contractAddress = none)
      (hleaves : host.interpreter.Only Query.GoesForward → tx.Leaves m.store.ledger l) :
      Deploys host tx m execution l
  /-- The creation could not pay for its code, and goes without it unless a program stored code
  there by itself or created the same account. -/
  | unpaid {l : Ledger} {m₁ : Machine NoFaults} {frame : Frame} {nested : List CallTree}
      {ended : FrameEnd} {outcome : Outcome}
      (hresult : execution.result = .reverted .codeStoreOutOfGas)
      (haddress : execution.contractAddress = none) (hfork : host.rules.isHomestead = false)
      (harm : arm tx m = (.ok (), m₁))
      (htree : host.callTree (root tx) m₁ =
        .framed (root tx) frame nested (.ok ended) (.ok outcome))
      (hcode : host.interpreter.Only (Query.SparesCode (m.store.ledger.nextContract tx.sender)) →
        (∀ call ∈ allCalls nested, ¬call.Creates (m.store.ledger.nextContract tx.sender)) →
        l.codeAt (m.store.ledger.nextContract tx.sender) = []) : Deploys host tx m execution l

/-- Where a frame goes back to its mark, nothing is left of its primitive but a raised nonce. -/
theorem leaves_of_revert (hooks : host.env.IsTame)
    (hprograms : host.interpreter.Only Query.GoesForward) {p : Primitive} {bound mark : Nat}
    {frame : Frame} {input : Bytes} {ended : Except Stop FrameEnd} {m₁ m₂ : Machine NoFaults}
    {l : Ledger} (hs : host.setUp p m = (.ok (.ready mark frame), m₁))
    (hf : host.runFrame (host.dispatchWithin bound) frame input m₁ = (ended, m₂))
    (hback : m₂.store.ledger.revert mark = .ok l) : p.Leaves m.store.ledger l := by
  have hrespects : host.Respects Query.GoesForward (Journaled (φ := NoFaults)) :=
    respects_journaled_of_goesForward FaultModel.noFaults_sparesReverts hooks
  have hsets := setsUp_setUp FaultModel.noFaults_sparesReverts hooks p m
  rw [hs] at hsets
  obtain ⟨l₀, rfl, hleaves, hmark⟩ := hsets
  have hframe : Journaled m₁ m₂ := by
    have hnested := hrespects.dispatchWithin hprograms bound
    exact (hrespects.runFrame hnested hprograms frame input).rel_of_eq hf
  rw [(hmark.trans hframe).revert_eq] at hback
  rwa [← Except.ok.inj hback]

section

variable {execution : Execution} {outcome : Outcome} {m₁ m₂ : Machine NoFaults}
variable (hooks : host.env.SparesCode) (hkind : tx.kind = .create)
variable (hreports : execution.Reports outcome) (harm : arm tx m = (.ok (), m₁))

include hooks hkind hreports harm

/-- The creation got no frame: it was not run, or it failed. -/
theorem deploys_of_over (hs : host.setUp (root tx) m₁ = (.ok (.over outcome), m₂)) :
    host.Deploys tx m execution m₂.store.ledger := by
  have harmed : m₁.store.ledger = m.store.ledger := (keeps_sameLedger_arm tx).rel_of_eq harm
  have hsets := setsUp_setUp FaultModel.noFaults_sparesReverts hooks.toIsTame (root tx) m₁
  rw [hs, harmed] at hsets
  rw [root_create hkind] at hs
  rcases over_of_setUp_create hs with
    ⟨⟨hconfig, hdepth⟩, hresult, houtput, hcreated, rfl⟩ | ⟨failure, hresult⟩
  · have hsameDepth : m₂.depth = m.depth := (keeps_sameDepth_arm tx).rel_of_eq harm
    rw [harmed]
    exact .unrun (hreports.result.trans hresult)
      ((hreports.address_of_success hresult).trans hcreated) (hreports.output.trans houtput)
      hconfig (hsameDepth ▸ hdepth)
  · exact .failed (hreports.result.trans hresult) (hreports.address_of_reverted hresult)
      fun _ => leaves_of_root hkind hsets

/-- The frame of the creation ended, and the creation was concluded. -/
theorem deploys_of_settle {bound mark : Nat} {frame : Frame} {ended : FrameEnd}
    {m₃ m₄ : Machine NoFaults} (hs : host.setUp (root tx) m₁ = (.ok (.ready mark frame), m₃))
    (hf : host.runFrame (host.dispatchWithin bound) frame frame.calldata m₃ = (.ok ended, m₄))
    (hsettle : host.settle (root tx) mark frame ended m₄ = (.ok outcome, m₂))
    (htree : host.callTree (root tx) m₁ =
      .framed (root tx) frame (host.frameCalls (host.dispatchWithin bound) (host.treeWithin bound)
        frame frame.calldata m₃) (.ok ended) (.ok outcome)) :
    host.Deploys tx m execution m₂.store.ledger := by
  have harmed : m₁.store.ledger = m.store.ledger := (keeps_sameLedger_arm tx).rel_of_eq harm
  have hcreation : (root tx).IsCreation := by
    rw [root_create hkind]
    trivial
  have hnew := host.frame_of_setUp_create hooks (root_create hkind ▸ hs)
  rw [harmed] at hnew
  obtain ⟨hderived, hnone⟩ := hnew
  have hcreated := created_of_settle hcreation mark frame ended m₄ outcome m₂ hsettle
  have hleaves {l : Ledger} (hback : m₄.store.ledger.revert mark = .ok l)
      (hprograms : host.interpreter.Only Query.GoesForward) : tx.Leaves m.store.ledger l := by
    rw [← harmed]
    exact leaves_of_root hkind (leaves_of_revert hooks.toIsTame hprograms hs hf hback)
  have hends := concludes_settle hcreation hsettle
  generalize m₂.store.ledger = l at hends ⊢
  cases hends with
  | stored hended hsize hresult =>
    refine .deployed (hreports.result.trans hresult)
      ((hreports.address_of_success hresult).trans hcreated) hderived (Ledger.mem_setCode _ _ _) ?_
    rw [Ledger.codeAt_setCode, if_pos rfl, hreports.output]
  | oversized hback hsize hresult houtput =>
    refine .oversized (hreports.result.trans hresult) ?_ (hreports.output.trans houtput) harm
      htree hsize (hleaves hback)
    rw [hreports.address_of_success hresult, hcreated, hderived]
  | undone hback hresult =>
    exact .failed (hreports.result.trans hresult) (hreports.address_of_reverted hresult)
      (hleaves hback)
  | unpaid hresult hfork =>
    refine .unpaid (hreports.result.trans hresult) (hreports.address_of_reverted hresult) hfork
      harm htree fun hspares hno => ?_
    -- the account has no code when its frame starts, and gets none in it
    have hnests := host.nests_codeless (a := m.store.ledger.nextContract tx.sender) hooks
    have hframe := hnests.runFrame (hnests.dispatchWithin hspares bound) hspares frame
      frame.calldata m₃
    rw [hf] at hframe
    rw [hderived] at hnone
    exact hframe.codeless hno hnone

end

/-- **What a creation transaction reports**, for every interpreter and every state.

A reported address is that of an account with the output as its code, unless the code was too large
or nothing was run at all.  Without an address nothing was stored: the creation was taken back, or
the account that it leaves has no code.  That asks of the programs not to go back in the store, and
not to store code there, by themselves. -/
theorem deploys_execute (hooks : host.env.SparesCode) (hkind : tx.kind = .create)
    {execution : Execution} (h : host.execute tx m = (.ok execution, m')) :
    host.Deploys tx m execution m'.store.ledger ∧
      execution.receipt.contractAddress = execution.contractAddress := by
  obtain ⟨outcome, m₁, m₂, harm, hrun, hsame, hreports⟩ := exists_run_of_execute h
  refine ⟨?_, hreports.receipt⟩
  rw [show m'.store.ledger = m₂.store.ledger from hsame]
  rw [runRoot_create hkind] at hrun
  have hdispatch := eq_ok_of_guarded hrun
  obtain ⟨bound, hbound, hcallTree⟩ := host.exists_dispatch_eq (φ := NoFaults)
  rw [hbound] at hdispatch
  rcases host.tree_of_primitive (host.treeWithin bound) hdispatch with
    ⟨hs, -⟩ | ⟨mark, frame, m₃, ended, m₄, hs, hf, hsettle, hframed⟩
  · exact deploys_of_over hooks hkind hreports harm hs
  · rw [← hcallTree] at hframed
    exact deploys_of_settle hooks hkind hreports harm hs hf hsettle hframed

end Host

/-- Every frame returns one byte. -/
def Interpreter.returningByte : Interpreter := fun frame _ =>
  .done { result := .ok [7], gasLeft := frame.gasRemaining }

namespace Host

/-- A host without built-in contracts, on which no value moves and every frame returns one byte. -/
def ofByte : Host where
  env := { txHash := some 7, transfer := fun _ _ _ => .done (.ok ()) }
  precompiles := ∅
  rules := ChainConfig.rules (.allForksActive 1) 0
  interpreter := .returningByte

theorem sparesCode_ofByte : ofByte.env.SparesCode where
  canTransfer := Procedure.onlyReads_covers
  transfer _ _ _ _ _ s := .refl s.ledger
  code _ _ _ _ _ s _ := .refl s.ledger

/-- A machine without accounts. -/
def withoutAccounts : Machine NoFaults where
  store := { ledger := {}, faults := {} }
  pair := .disabled

/-- The creation of a contract with one byte of code. -/
def creationOfByte : Transaction where
  hash := 7
  sender := 1
  kind := .create
  nonce := 0
  value := 0
  gasLimit := 1000
  gasPrice := 0
  data := [0]

/-- The byte is stored as the code of the account that is reported. -/
theorem deploys_execute_byte :
    ∃ execution m' a, ofByte.execute creationOfByte withoutAccounts = (.ok execution, m') ∧
      execution.contractAddress = some a ∧ a ∈ m'.store.ledger.accounts ∧
      m'.store.ledger.codeAt a = [7] := by
  have hended : (ofByte.execute creationOfByte withoutAccounts).1.map
      (fun execution => (execution.result, execution.output)) = .ok (.success, [7]) := by
    decide +kernel
  rcases hrun : ofByte.execute creationOfByte withoutAccounts with ⟨stop | execution, m'⟩
  all_goals rw [hrun] at hended
  · cases hended
  obtain ⟨hresult, houtput⟩ := Prod.mk.inj (Except.ok.inj hended)
  obtain ⟨hdeploys, -⟩ := deploys_execute sparesCode_ofByte rfl hrun
  refine ⟨execution, m', ?_⟩
  generalize m'.store.ledger = l at hdeploys ⊢
  cases hdeploys with
  | deployed _ haddress _ hexists hcode => exact ⟨_, rfl, haddress, hexists, hcode.trans houtput⟩
  | oversized _ _ hnone | unrun _ _ hnone =>
    rw [houtput] at hnone
    cases hnone
  | failed hfailed | unpaid hfailed =>
    rw [hresult] at hfailed
    cases hfailed

end Host

end CallWatch
