import CallWatch.Ledger.Procedure
import CallWatch.Proofs.Ledger.Journal

/-!
# The ledger behind a layer of faults

A call of a `Store` is either refused by the layer, and then the ledger is not reached, or answered
by the ledger (`Store.perform_cases`).  So what the ledger keeps, the store keeps
(`Store.perform_induction`): the journal can take back whatever a store does, unless it goes back
itself (`Store.precedes_perform`), and a layer that spares reverts lets every earlier ledger be
restored (`Store.perform_revert`).

`Store.follow` is a procedure on its own, without the machine around it.  What all the operations
keep that it may ask for (`Procedure.Only`), it keeps, wherever it breaks off
(`Store.follow_induction`).
-/

namespace CallWatch

/-- Whether an operation only looks. -/
def StoreOp.IsRead : StoreOp → Prop
  | .exist _ | .getBalance _ | .getNonce _ | .getCode _ | .getCodeHash _ | .getState _ _ => True
  | _ => False

/-- Whether an operation leaves all balances alone, whatever came before it. -/
def StoreOp.MovesNothing : StoreOp → Prop
  | .addBalance _ _ | .subBalance _ _ | .revert _ => False
  | _ => True

/-- Whether an operation belongs to the setup of a frame: it only looks, takes a snapshot, raises a
nonce or puts a new account in place. -/
def StoreOp.IsSetup : StoreOp → Prop
  | .exist _ | .createAccount _ | .getBalance _ | .getNonce _ | .setNonce _ _ | .getCode _
  | .getCodeHash _ | .getState _ _ | .snapshot => True
  | .addBalance _ _ | .subBalance _ _ | .setCode _ _ | .setState _ _ _ | .revert _ => False

theorem StoreOp.IsSetup.movesNothing {op : StoreOp} (h : op.IsSetup) : op.MovesNothing := by
  cases op <;> trivial

theorem StoreOp.IsRead.movesNothing {op : StoreOp} (h : op.IsRead) : op.MovesNothing := by
  cases op <;> trivial

/-- The fault model lets every `revert` pass. -/
def FaultModel.SparesReverts (φ : Type) [FaultModel φ] : Prop :=
  ∀ faults : φ, (FaultModel.next faults .revert).1 = none

theorem FaultModel.noFaults_sparesReverts : SparesReverts NoFaults :=
  fun _ => rfl

/-- A fault model without its refusals of reverts. -/
structure Sparing (φ : Type) where
  faults : φ

instance (φ : Type) [FaultModel φ] : FaultModel (Sparing φ) where
  next sparing method :=
    if method = .revert then (none, sparing)
    else
      let (fault?, faults) := FaultModel.next sparing.faults method
      (fault?, { faults })
  hear sparing fault := { faults := FaultModel.hear sparing.faults fault }

theorem FaultModel.sparing_sparesReverts (φ : Type) [FaultModel φ] : SparesReverts (Sparing φ) :=
  fun _ => rfl

/-- An operation that only looks leaves the ledger as it is. -/
theorem Ledger.perform_of_isRead (l : Ledger) {op : StoreOp} (hop : op.IsRead) :
    (l.perform op).2 = l := by
  cases op with
  | exist | getBalance | getNonce | getCode | getCodeHash | getState => rfl
  | _ => exact hop.elim

namespace Store

variable {φ : Type} [FaultModel φ]

/-- **A call is refused by the layer or answered by the ledger.** -/
theorem perform_cases (s : Store φ) (op : StoreOp) :
    (∃ fault faults, s.perform op = (.error fault, { s with faults })) ∨
      ∃ faults, s.perform op =
        ((s.ledger.perform op).1, { ledger := (s.ledger.perform op).2, faults }) := by
  unfold perform
  cases op.method with
  | none => exact .inr ⟨s.faults, rfl⟩
  | some method =>
    dsimp only
    rcases FaultModel.next s.faults method with ⟨_ | fault, faults⟩
    · -- the layer lets the call pass, and hears of a refusal by the ledger
      rcases s.ledger.perform op with ⟨fault | answer, ledger⟩
      · exact .inr ⟨FaultModel.hear faults fault, rfl⟩
      · exact .inr ⟨faults, rfl⟩
    · exact .inl ⟨fault, faults, rfl⟩

/-- An answer comes from the ledger. -/
theorem perform_of_ok {s : Store φ} {op : StoreOp} {answer : op.Answer}
    (h : (s.perform op).1 = .ok answer) :
    (s.ledger.perform op).1 = .ok answer ∧ (s.perform op).2.ledger = (s.ledger.perform op).2 := by
  rcases perform_cases s op with ⟨_, _, heq⟩ | ⟨_, heq⟩
  · rw [heq] at h
    cases h
  · rw [heq] at h ⊢
    exact ⟨h, rfl⟩

/-- **What the ledger keeps with an operation, the store keeps**, as a call that is refused leaves
the ledger as it is. -/
theorem perform_induction {motive : Ledger → Prop} {s : Store φ} {op : StoreOp}
    (hkept : motive s.ledger) (hperformed : motive (s.ledger.perform op).2) :
    motive (s.perform op).2.ledger := by
  rcases perform_cases s op with ⟨_, _, heq⟩ | ⟨_, heq⟩
  all_goals rw [heq]
  · exact hkept
  · exact hperformed

/-- **What a store does can be taken back**, unless it goes back to an older mark itself. -/
theorem precedes_perform {l : Ledger} {s : Store φ} (h : l.Precedes s.ledger) {op : StoreOp}
    (hop : ∀ mark, op = .revert mark → l.snapshot ≤ mark) :
    l.Precedes (s.perform op).2.ledger :=
  perform_induction h (h.perform hop)

/-- **Every earlier ledger can be restored**, if the layer spares reverts. -/
theorem perform_revert (hφ : FaultModel.SparesReverts φ) {l : Ledger} {s : Store φ}
    (h : l.Precedes s.ledger) :
    s.perform (.revert l.snapshot) =
      (.ok (), { ledger := l, faults := (FaultModel.next s.faults .revert).2 }) := by
  have hl : s.ledger.perform (.revert l.snapshot) = (.ok (), l) := by
    simp only [Ledger.perform, h.revert_eq, Ledger.settle]
  have hnone := hφ s.faults
  unfold perform
  simp only [StoreOp.method]
  rcases hnext : FaultModel.next s.faults .revert with ⟨_ | fault, faults⟩
  · simp only [hl]
  · rw [hnext] at hnone
    cases hnone

/-- A call that only looks leaves the ledger as it is. -/
theorem ledger_perform_of_isRead (s : Store φ) (op : StoreOp) (hop : op.IsRead) :
    (s.perform op).2.ledger = s.ledger :=
  perform_induction (motive := (· = s.ledger)) rfl (s.ledger.perform_of_isRead hop)

end Store

/-! ### Procedures -/

/-- Whether a procedure asks only for allowed operations, whatever it is answered. -/
def Procedure.Only (allowed : StoreOp → Prop) {α : Type} : Procedure α → Prop
  | .done _ => True
  | .ask op next => allowed op ∧ ∀ answer, (next answer).Only allowed

namespace Store

variable {φ : Type} [FaultModel φ]

/-- The answer of a procedure, and the store after it. -/
def follow {α : Type} (s : Store φ) : Procedure α → Except StoreFault α × Store φ
  | .done answer => (answer, s)
  | .ask op next => (s.perform op).2.follow (next (s.perform op).1)

/-- **What all operations keep that a procedure may ask for, the procedure keeps.** -/
theorem follow_induction {motive : Ledger → Prop} {allowed : StoreOp → Prop} {α : Type}
    (s : Store φ) {p : Procedure α} (hp : p.Only allowed)
    (hop : ∀ op l, allowed op → motive l → motive (l.perform op).2) (h : motive s.ledger) :
    motive (s.follow p).2.ledger := by
  induction p generalizing s with
  | done answer => exact h
  | ask op next ih =>
    have hstep : motive (s.perform op).2.ledger := perform_induction h (hop op s.ledger hp.1 h)
    exact ih _ _ (hp.2 _) hstep

end Store

namespace Procedure

/-- Whether a procedure leaves every ledger as it is. -/
def OnlyReads {α : Type} (p : Procedure α) : Prop :=
  ∀ {φ : Type} [FaultModel φ] (s : Store φ), (s.follow p).2.ledger = s.ledger

/-- Whether a procedure takes nothing back that was done before it. -/
def GoesForward {α : Type} (p : Procedure α) : Prop :=
  ∀ {φ : Type} [FaultModel φ] (s : Store φ), s.ledger.Precedes (s.follow p).2.ledger

/-! ### Checks and transfers -/

section

variable {allowed : StoreOp → Prop}

theorem only_perform {op : StoreOp} (h : allowed op) : (perform op).Only allowed :=
  ⟨h, fun _ => trivial⟩

/-- A procedure that goes on after another one asks for what the two of them ask for. -/
theorem Only.bind {α β : Type} {p : Procedure α} {f : α → Procedure β} (hp : p.Only allowed)
    (hf : ∀ a, (f a).Only allowed) : (p.bind f).Only allowed := by
  induction p with
  | done answer =>
    cases answer with
    | ok a => exact hf a
    | error => trivial
  | ask op next ih => exact ⟨hp.1, fun answer => ih answer (hp.2 answer)⟩

variable {a sender receiver : Address} {amount : Word}

/-- A check asks for a balance. -/
theorem only_covers (hget : allowed (.getBalance a)) : (covers a amount).Only allowed :=
  (only_perform hget).bind fun _ => trivial

/-- A transfer asks for a debit and a credit. -/
theorem only_transfer (hsub : allowed (.subBalance sender amount))
    (hadd : allowed (.addBalance receiver amount)) :
    (transfer sender receiver amount).Only allowed :=
  (only_perform hsub).bind fun _ => only_perform hadd

end

theorem onlyReads_covers (a : Address) (amount : Word) : (covers a amount).OnlyReads := by
  intro φ _ s
  have honly : (covers a amount).Only StoreOp.IsRead := only_covers trivial
  exact s.follow_induction (motive := (· = s.ledger)) honly
    (fun op l hop h => (l.perform_of_isRead hop).trans h) rfl

theorem goesForward_transfer (sender receiver : Address) (amount : Word) :
    (transfer sender receiver amount).GoesForward := by
  intro φ _ s
  have honly : (transfer sender receiver amount).Only fun op => ∀ mark, op ≠ .revert mark :=
    only_transfer nofun nofun
  exact s.follow_induction honly
    (fun op l hop h => h.perform fun mark heq => (hop mark heq).elim) (.refl s.ledger)

end Procedure

end CallWatch
