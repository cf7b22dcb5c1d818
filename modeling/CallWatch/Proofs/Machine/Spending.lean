import CallWatch.Proofs.Machine.Deployment
import CallWatch.Proofs.Machine.Nonces
import CallWatch.Proofs.Machine.Watching

/-!
# Transactions use up a nonce

A transaction that is executed leaves the nonce of its sender higher than it was, whatever becomes
of its run: an outcome, a failure that is absorbed, one that is passed on, or a panic
(`Host.nonce_execute`).  There is one exception.  A call raises the nonce before its root is
guarded, a creation inside of the guard; so a creation whose root panics is taken back as a whole,
and leaves the nonce as it was (`Host.LosesNonce`).
-/

namespace CallWatch

open CallTree Run

namespace Host

section

variable {φ : Type} [FaultModel φ]

/-- The preconditions of a primitive hold: it may be nested where it is, it is not too deep, and its
payer can afford what it is worth. -/
structure Allows (host : Host) (p : Primitive) (m : Machine φ) : Prop where
  nesting : ¬(host.config.noRecursion = true ∧ 0 < m.depth)
  depth : ¬host.config.maxCallDepth < m.depth
  value : ∀ value, p.value? = some value →
    (m.store.follow (host.env.canTransfer p.payer value)).1 = .ok true

/-- A primitive whose preconditions hold is not refused. -/
theorem refusal?_of_allows {host : Host} {p : Primitive} {m : Machine φ} (h : host.Allows p m) :
    ∃ m', host.refusal? p.payer p.gas p.value? m = (.ok none, m') := by
  unfold refusal?
  rw [bind_of_ok (get_apply m), if_neg h.nesting, if_neg h.depth]
  cases hvalue : p.value? with
  | none => exact ⟨m, rfl⟩
  | some value =>
    obtain ⟨m₁, hcovers⟩ : ∃ m₁,
        perform (host.env.canTransfer p.payer value) m = (.ok true, m₁) :=
      ⟨_, by rw [perform_apply, ofStore_eq_ok_iff.2 (h.value value hvalue)]⟩
    dsimp only
    rw [bind_of_ok hcovers]
    exact ⟨_, rfl⟩

end

variable {host : Host} {tx : Transaction} {a : Address} {m m' : Machine NoFaults}

/-! ### Raising a nonce -/

/-- The machine with the nonce of an account raised by one. -/
def raised (a : Address) (m : Machine NoFaults) : Machine NoFaults :=
  { m with store := {
      m.store with ledger := m.store.ledger.setNonce a (m.store.ledger.nonceAt a + 1) } }

section

variable (hroom : (m.store.ledger.nonceAt a).toNat + 1 < 2 ^ 64)

include hroom

theorem toNat_nonceAt_succ :
    (m.store.ledger.nonceAt a + 1).toNat = (m.store.ledger.nonceAt a).toNat + 1 := by
  rw [UInt64.toNat_add]
  exact Nat.mod_eq_of_lt hroom

theorem nonceAt_lt_raised : m.store.ledger.nonceAt a < (raised a m).store.ledger.nonceAt a := by
  rw [raised, Ledger.nonceAt_setNonce, if_pos rfl, UInt64.lt_iff_toNat_lt, toNat_nonceAt_succ hroom]
  exact Nat.lt_add_one _

/-- A nonce that is not the last one can be raised. -/
theorem raisingNonce_of_room {α : Type} (f : UInt64 → Run NoFaults α) :
    raisingNonce a f m = f (m.store.ledger.nonceAt a) (raised a m) := by
  have hread : (store (.getNonce a) : Run NoFaults UInt64) m =
      (.ok (m.store.ledger.nonceAt a), m) := rfl
  have hnext : Checked.add (m.store.ledger.nonceAt a) 1 = some (m.store.ledger.nonceAt a + 1) :=
    Checked.add_eq_some_iff.2 (toNat_nonceAt_succ hroom)
  rw [raisingNonce, bind_of_ok hread, hnext]
  rfl

end

/-! ### The root -/

/-- A creation that is not refused prepares its frame behind the raised nonce of its caller. -/
theorem taken_of_allows (hooks : host.env.IsTame) {caller : Address} {code : Bytes} {gas : UInt64}
    {value : Word} (h : host.Allows (.create caller code gas value) m)
    (hroom : (m.store.ledger.nonceAt caller).toNat + 1 < 2 ^ 64) :
    ∃ account m₀, m.store.ledger.nonceAt caller < m₀.store.ledger.nonceAt caller ∧
      host.setUp (.create caller code gas value) m =
        host.prepare account (.create caller code gas value) m₀ := by
  obtain ⟨m₁, hrefusal⟩ := refusal?_of_allows h
  have hsame : SameLedger m m₁ :=
    (keeps_sameLedger_refusal? hooks caller gas (some value)).rel_of_eq hrefusal
  have hledger : m₁.store.ledger = m.store.ledger := hsame
  rw [← hledger] at hroom ⊢
  have htake : takeAccount (.create caller code gas value) m₁ = _ :=
    raisingNonce_of_room hroom fun nonce => pure (contractAddress caller nonce)
  refine ⟨contractAddress caller (m₁.store.ledger.nonceAt caller), raised caller m₁,
    nonceAt_lt_raised hroom, ?_⟩
  rw [setUp, bind_of_ok hrefusal]
  exact bind_of_ok htake _

/-- **A creation that is not refused leaves a higher nonce**, whatever becomes of it. -/
theorem nonceAt_lt_dispatch (hooks : host.env.SparesNonces) {caller : Address} {code : Bytes}
    {gas : UInt64} {value : Word}
    (hprograms : host.interpreter.Only (Query.SparesNonce caller))
    (h : host.Allows (.create caller code gas value) m)
    (hroom : (m.store.ledger.nonceAt caller).toNat + 1 < 2 ^ 64)
    (hno : ∀ call ∈ (host.callTree (.create caller code gas value) m).calls,
      ¬call.Creates caller) :
    m.store.ledger.nonceAt caller <
      (host.dispatch (.create caller code gas value) m).2.store.ledger.nonceAt caller := by
  obtain ⟨account, m₀, hraised, htaken⟩ := taken_of_allows hooks.toIsTame h hroom
  have hkept := keepsNonce_of_taken hooks hprograms htaken
  rw [← allCalls_singleton] at hno
  exact UInt64.lt_of_lt_of_le hraised (hkept.nonce hno)

/-! ### The guard -/

section

variable {α : Type} {x : Run NoFaults α}

theorem guarded_of_not_panicked (h : ¬∃ message, (x m).1 = .error (.panicked message)) :
    guarded x m = x m := by
  rw [guarded_apply]
  rcases hx : x m with ⟨(failure | message | _) | a, m₁⟩
  · rfl
  · exact (h ⟨message, congrArg Prod.fst hx⟩).elim
  · rfl
  · rfl

/-- A panic that is caught takes everything back. -/
theorem ledger_guarded_of_panicked (hforward : Journaled m (x m).2)
    (h : ∃ message, (x m).1 = .error (.panicked message)) :
    (guarded x m).2.store.ledger = m.store.ledger := by
  obtain ⟨message, hpanics⟩ := h
  rw [guarded_apply]
  rcases hx : x m with ⟨ended, m₁⟩
  rw [hx] at hforward hpanics
  obtain rfl : ended = .error (.panicked message) := hpanics
  dsimp only
  rw [bind_of_ok (revert_apply FaultModel.noFaults_sparesReverts hforward)]
  rfl

end

/-! ### Transactions -/

/-- The machine on which the root of a transaction starts: the watchdogs are armed, and a call has
raised the nonce of its sender. -/
def rootStart (tx : Transaction) (m : Machine NoFaults) : Machine NoFaults :=
  match tx.kind with
  | .call _ => raised tx.sender (arm tx m).2
  | .create => (arm tx m).2

/-- The transaction is a creation, and a panic goes through its root. -/
def LosesNonce (host : Host) (tx : Transaction) (m : Machine NoFaults) : Prop :=
  tx.kind = .create ∧
    ∃ message, (host.dispatch (root tx) (rootStart tx m)).1 = .error (.panicked message)

/-- What is done around the run of a transaction leaves the ledger alone. -/
theorem ledger_execute (hbound : host.env.txHash = some tx.hash) (m : Machine NoFaults) :
    (host.execute tx m).2.store.ledger =
      (host.runRoot tx (arm tx m).2).2.store.ledger := by
  rw [execute, if_pos hbound, bind_of_ok (arm_eq tx m), bind_apply, attempt_apply, arm_eq]
  dsimp only
  rcases host.runRoot tx _ with ⟨(failure | message | _) | outcome, m₁⟩
  · exact keeps_sameLedger_abandon tx failure m₁
  · rfl
  · rfl
  · exact keeps_sameLedger_conclude tx outcome m₁

/-- The run of a transaction is its root, guarded. -/
theorem runRoot_eq (hroom : (m.store.ledger.nonceAt tx.sender).toNat + 1 < 2 ^ 64) :
    host.runRoot tx (arm tx m).2 = guarded (host.dispatch (root tx)) (rootStart tx m) := by
  rw [rootStart]
  cases hkind : tx.kind with
  | call target =>
    have hledger : (arm tx m).2.store.ledger = m.store.ledger := keeps_sameLedger_arm tx m
    rw [← hledger] at hroom
    rw [runRoot_call hkind]
    exact raisingNonce_of_room hroom _
  | create => rw [runRoot_create hkind]

/-- Arming the watchdogs changes nothing that preconditions are about. -/
theorem allows_arm {p : Primitive} (h : host.Allows p m) (tx : Transaction) :
    host.Allows p (arm tx m).2 := by
  rw [arm_eq]
  exact ⟨h.nesting, h.depth, h.value⟩

section

variable (hooks : host.env.SparesNonces)
variable (hprograms : host.interpreter.Only (Query.SparesNonce tx.sender))
variable (hroom : (m.store.ledger.nonceAt tx.sender).toNat + 1 < 2 ^ 64)
variable (hno : ∀ call ∈ (host.callTree (root tx) (rootStart tx m)).calls, ¬call.Creates tx.sender)

include hooks hprograms hroom hno

/-- A call raises the nonce before the guard, and nothing behind it lowers the nonce again. -/
theorem nonceAt_lt_guarded_call {target : Address} (hkind : tx.kind = .call target) :
    m.store.ledger.nonceAt tx.sender <
      (guarded (host.dispatch (root tx)) (rootStart tx m)).2.store.ledger.nonceAt tx.sender := by
  have hnests := host.nests_keepsNonce (a := tx.sender) hooks
  have hroot := hnests.guarded (hnests.dispatch hprograms (root tx) (rootStart tx m))
  rw [← allCalls_singleton] at hno
  have hledger : (arm tx m).2.store.ledger = m.store.ledger := keeps_sameLedger_arm tx m
  have hraised : m.store.ledger.nonceAt tx.sender <
      (rootStart tx m).store.ledger.nonceAt tx.sender := by
    rw [rootStart, hkind, ← hledger]
    rw [← hledger] at hroom
    exact nonceAt_lt_raised hroom
  exact UInt64.lt_of_lt_of_le hraised (hroot.nonce hno)

/-- A creation raises it behind the guard, which is left with what the creation left. -/
theorem nonceAt_lt_guarded_create (hkind : tx.kind = .create) (hallows : host.Allows (root tx) m)
    (hcalm : ¬∃ message, (host.dispatch (root tx) (rootStart tx m)).1 =
      .error (.panicked message)) :
    m.store.ledger.nonceAt tx.sender <
      (guarded (host.dispatch (root tx)) (rootStart tx m)).2.store.ledger.nonceAt tx.sender := by
  have hstart : rootStart tx m = (arm tx m).2 := by rw [rootStart, hkind]
  have hledger : (arm tx m).2.store.ledger = m.store.ledger := keeps_sameLedger_arm tx m
  have hallowed := allows_arm hallows tx
  rw [guarded_of_not_panicked hcalm, hstart, ← hledger]
  rw [hstart] at hno
  rw [← hledger] at hroom
  rw [root_create hkind] at hallowed hno ⊢
  exact nonceAt_lt_dispatch hooks hprograms hallowed hroom hno

end

/-- **Every transaction that is executed uses up a nonce of its sender**, unless it is a creation
and a panic goes through its root; that one leaves the accounts as they were.

The hooks and the programs write no nonce of the sender by themselves, the nonce is not the last
one, a creation is not refused, and no account that is created in the run is the sender. -/
theorem nonce_execute (hooks : host.env.SparesNonces)
    (hprograms : host.interpreter.Only (Query.SparesNonce tx.sender))
    (hbound : host.env.txHash = some tx.hash)
    (hroom : (m.store.ledger.nonceAt tx.sender).toNat + 1 < 2 ^ 64)
    (hallows : tx.kind = .create → host.Allows (root tx) m)
    (hno : ∀ call ∈ (host.callTree (root tx) (rootStart tx m)).calls, ¬call.Creates tx.sender) :
    (host.LosesNonce tx m → (host.execute tx m).2.store.ledger = m.store.ledger) ∧
    (¬host.LosesNonce tx m →
      m.store.ledger.nonceAt tx.sender <
        (host.execute tx m).2.store.ledger.nonceAt tx.sender) := by
  rw [ledger_execute hbound, runRoot_eq hroom]
  refine ⟨fun ⟨hkind, hpanics⟩ => ?_, fun hcalm => ?_⟩
  · have hnests := host.nests_keepsNonce (a := tx.sender) hooks
    have hkept := hnests.dispatch hprograms (root tx) (rootStart tx m)
    have hstart : rootStart tx m = (arm tx m).2 := by rw [rootStart, hkind]
    rw [ledger_guarded_of_panicked hkept.journaled hpanics, hstart]
    exact keeps_sameLedger_arm tx m
  · cases hkind : tx.kind with
    | call target => exact nonceAt_lt_guarded_call hooks hprograms hroom hno hkind
    | create =>
      exact nonceAt_lt_guarded_create hooks hprograms hroom hno hkind (hallows hkind)
        fun hpanics => hcalm ⟨hkind, hpanics⟩

end Host

/-- Every frame panics. -/
def Interpreter.panicking : Interpreter :=
  fun _ _ => .panic (some "boom")

instance (a : Address) : DecidablePred (Creates a)
  | .framed (.create _ _ _ _) frame _ _ _ => inferInstanceAs (Decidable (frame.account = a))
  | .framed (.call _ _ _ _ _) _ _ _ _ | .framed (.callCode _ _ _ _ _) _ _ _ _
  | .framed (.delegateCall _ _ _ _) _ _ _ _ | .bare _ _ => .isFalse id

namespace Host

/-- A host without built-in contracts, on which no value moves and every frame panics. -/
def ofPanicking : Host where
  env := { txHash := some 7, transfer := fun _ _ _ => .done (.ok ()) }
  precompiles := ∅
  rules := ChainConfig.rules (.allForksActive 1) 0
  interpreter := .panicking

theorem sparesNonces_ofPanicking : ofPanicking.env.SparesNonces where
  canTransfer := Procedure.onlyReads_covers
  transfer _ _ _ _ _ s := .refl s.ledger
  nonces _ _ _ _ _ _ _ := UInt64.le_refl _

/-- A creation of the sender of `callOfNine`. -/
def creationOfOne : Transaction :=
  { callOfNine with kind := .create, data := [1] }

/-- A call that panics uses up the nonce of its sender, a creation that panics does not. -/
theorem nonce_execute_panicking :
    (¬ofPanicking.LosesNonce callOfNine withCode ∧
      withCode.store.ledger.nonceAt 1 <
        (ofPanicking.execute callOfNine withCode).2.store.ledger.nonceAt 1) ∧
    ofPanicking.LosesNonce creationOfOne withCode ∧
      (ofPanicking.execute creationOfOne withCode).2.store.ledger = withCode.store.ledger := by
  have hprograms : ofPanicking.interpreter.Only (Query.SparesNonce 1) := fun _ _ => trivial
  have hroom : (withCode.store.ledger.nonceAt 1).toNat + 1 < 2 ^ 64 := by decide +kernel
  have hallows : ofPanicking.Allows (root creationOfOne) withCode := by
    refine ⟨by decide, by decide, fun value hvalue => ?_⟩
    cases hvalue
    decide +kernel
  have hcalled : ∀ call ∈ (ofPanicking.callTree (root callOfNine)
      (rootStart callOfNine withCode)).calls, ¬call.Creates 1 := by
    decide +kernel
  have hcreated : ∀ call ∈ (ofPanicking.callTree (root creationOfOne)
      (rootStart creationOfOne withCode)).calls, ¬call.Creates 1 := by
    decide +kernel
  have hkeeps : ¬ofPanicking.LosesNonce callOfNine withCode := by
    rintro ⟨hkind, -⟩
    cases hkind
  have hpanics : (ofPanicking.dispatch (root creationOfOne) (rootStart creationOfOne withCode)).1 =
      .error (.panicked (some "boom")) := by
    decide +kernel
  have hloses : ofPanicking.LosesNonce creationOfOne withCode := ⟨rfl, _, hpanics⟩
  refine ⟨⟨hkeeps, ?_⟩, hloses, ?_⟩
  · exact (@nonce_execute ofPanicking callOfNine withCode sparesNonces_ofPanicking hprograms rfl
      hroom nofun hcalled).2 hkeeps
  · exact (@nonce_execute ofPanicking creationOfOne withCode sparesNonces_ofPanicking hprograms rfl
      hroom (fun _ => hallows) hcreated).1 hloses

end Host

end CallWatch
