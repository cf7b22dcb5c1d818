import CallWatch.Machine.Dispatch
import CallWatch.Proofs.Ledger.Store
import Mathlib.Order.Defs.Unbundled

/-!
# What a computation keeps

`Run.Keeps R x` says that the machines before and after `x` are related by `R`, whether `x` ends
with a value or with a stop.  For a preorder `R` this is closed under all ways to put computations
together.

The equations for single store calls and procedures come first, and `Run.undoOnFailure_cases` tells
what a setup with its rollback comes to.
-/

namespace CallWatch

/-- The machine with an earlier ledger in place; its layer of faults has seen a revert pass. -/
def Machine.backTo {φ : Type} [FaultModel φ] (m : Machine φ) (l : Ledger) : Machine φ :=
  { m with store := { ledger := l, faults := (FaultModel.next m.store.faults .revert).2 } }

namespace Run

variable {φ α β : Type} {m m' : Machine φ}

/-! ### Computations on a machine -/

theorem get_apply (m : Machine φ) : (get : Run φ (Machine φ)) m = (.ok m, m) := rfl

theorem attempt_apply (x : Run φ α) (m : Machine φ) :
    attempt x m =
      match x m with
      | (.ok a, m) => (.ok (.ok a), m)
      | (.error (.failed failure), m) => (.ok (.error failure), m)
      | (.error s, m) => (.error s, m) := rfl

theorem snd_attempt (x : Run φ α) (m : Machine φ) : (attempt x m).2 = (x m).2 := by
  rw [attempt_apply]
  rcases x m with ⟨(_ | _ | _) | _, _⟩ <;> rfl

/-- An attempt that succeeded is the computation itself. -/
theorem eq_ok_of_attempt {x : Run φ α} {a : α} (h : attempt x m = (.ok (.ok a), m')) :
    x m = (.ok a, m') := by
  rw [attempt_apply] at h
  rcases hx : x m with ⟨(_ | _ | _) | _, _⟩
  all_goals
    rw [hx] at h
    cases h
  rfl

/-- A computation goes on from where its first part ended. -/
theorem bind_of_ok {x : Run φ α} {a : α} (h : x m = (.ok a, m')) (f : α → Run φ β) :
    (x >>= f) m = f a m' := by
  rw [bind_apply, h]

/-- A computation that ends with a value passed a value on from each part to the next. -/
theorem bind_eq_ok_iff {x : Run φ α} {f : α → Run φ β} {b : β} :
    (x >>= f) m = (.ok b, m') ↔ ∃ a m₁, x m = (.ok a, m₁) ∧ f a m₁ = (.ok b, m') := by
  rw [bind_apply]
  rcases x m with ⟨stop | a, m₁⟩
  · simp only [Prod.mk.injEq, reduceCtorEq, false_and, exists_false]
  · constructor
    · intro h
      exact ⟨a, m₁, rfl, h⟩
    · rintro ⟨_, _, h, hf⟩
      cases h
      exact hf

section

variable [FaultModel φ]

/-- A fault of the store as the end of a computation. -/
def ofStore (answer : Except StoreFault α) : Except Stop α :=
  answer.mapError fun fault => .failed (.store fault)

theorem ofStore_eq_ok_iff {answer : Except StoreFault α} {a : α} :
    ofStore answer = .ok a ↔ answer = .ok a := by
  cases answer with
  | ok _ => simp only [ofStore, Except.mapError, Except.ok.injEq]
  | error fault => simp only [ofStore, Except.mapError, reduceCtorEq]

theorem ofStore_ne_panicked (answer : Except StoreFault α) (message : Option String) :
    ofStore answer ≠ .error (.panicked message) := by
  cases answer <;> simp [ofStore, Except.mapError]

theorem failed_of_ofStore {answer : Except StoreFault α} {s : Stop}
    (h : ofStore answer = .error s) :
    ∃ failure : Failure, failure.propagates = true ∧ s = .failed failure := by
  cases answer with
  | ok _ => cases h
  | error fault => exact ⟨.store fault, rfl, (Except.error.inj h).symm⟩

theorem ask_apply (op : StoreOp) (m : Machine φ) :
    ask op m = (.ok (m.store.perform op).1, { m with store := (m.store.perform op).2 }) := rfl

theorem store_apply (op : StoreOp) (m : Machine φ) :
    store op m = (ofStore (m.store.perform op).1, { m with store := (m.store.perform op).2 }) := by
  rw [store, bind_apply, ask_apply]
  dsimp only
  cases (m.store.perform op).1 <;> rfl

theorem run_ask_apply (p : Procedure α) (m : Machine φ) :
    p.run (m := Run φ) ask m =
      (.ok (m.store.follow p).1, { m with store := (m.store.follow p).2 }) := by
  induction p generalizing m with
  | done answer => rfl
  | ask op next ih => exact ih _ _

theorem perform_apply (p : Procedure α) (m : Machine φ) :
    perform p m = (ofStore (m.store.follow p).1, { m with store := (m.store.follow p).2 }) := by
  rw [perform, bind_apply, run_ask_apply]
  dsimp only
  cases (m.store.follow p).1 <;> rfl

theorem snapshot_apply (m : Machine φ) : store .snapshot m = (.ok m.store.ledger.snapshot, m) :=
  rfl

theorem guarded_apply (x : Run φ α) (m : Machine φ) :
    guarded x m =
      match x m with
      | (.error (.panicked message), after) =>
        (store (.revert m.store.ledger.snapshot) >>= fun _ =>
          Run.modify (fun after => { after with depth := m.depth }) >>= fun _ =>
            fail (.internal (.panic (message.getD unknownPanic)))) after
      | ended => ended := rfl

/-- **Going back to an earlier ledger succeeds**, if the layer spares reverts. -/
theorem revert_apply (hφ : FaultModel.SparesReverts φ) {l : Ledger}
    (h : l.Precedes m.store.ledger) : store (.revert l.snapshot) m = (.ok (), m.backTo l) := by
  rw [store_apply, Store.perform_revert hφ h]
  rfl

/-- **A computation with its rollback** ends as the computation does, and if that fails, the ledger
is the marked one. -/
theorem undoOnFailure_cases (hφ : FaultModel.SparesReverts φ) {l : Ledger} {x : Run φ α}
    (h : l.Precedes (x m).2.store.ledger) :
    (undoOnFailure l.snapshot x m = x m ∧ ∀ failure, (x m).1 ≠ .error (.failed failure)) ∨
      ∃ failure, (x m).1 = .error (.failed failure) ∧
        undoOnFailure l.snapshot x m = (.error (.failed failure), (x m).2.backTo l) := by
  rw [undoOnFailure, bind_apply, attempt_apply]
  rcases hx : x m with ⟨(failure | message | _) | a, m₁⟩
  · right
    rw [hx] at h
    refine ⟨failure, rfl, ?_⟩
    dsimp only
    exact bind_of_ok (revert_apply hφ h) _
  -- values, panics and an exhausted bound pass through
  all_goals exact .inl ⟨rfl, fun _ h => by cases h⟩

/-- A computation with its rollback ends with a value only if the computation does. -/
theorem eq_ok_of_undoOnFailure {mark : Nat} {x : Run φ α} {a : α}
    (h : undoOnFailure mark x m = (.ok a, m')) : x m = (.ok a, m') := by
  rw [undoOnFailure, bind_eq_ok_iff] at h
  obtain ⟨answer, m₁, hx, h⟩ := h
  cases answer with
  | ok a' =>
    cases h
    exact eq_ok_of_attempt hx
  | error failure =>
    obtain ⟨_, _, _, h⟩ := bind_eq_ok_iff.1 h
    cases h

/-- A guarded computation ends with a value only if the computation does. -/
theorem eq_ok_of_guarded {x : Run φ α} {a : α} (h : guarded x m = (.ok a, m')) :
    x m = (.ok a, m') := by
  rw [guarded_apply] at h
  rcases hx : x m with ⟨(failure | message | _) | a', m₁⟩
  all_goals rw [hx] at h
  case error.panicked =>
    obtain ⟨_, _, _, h⟩ := bind_eq_ok_iff.1 h
    obtain ⟨_, _, _, h⟩ := bind_eq_ok_iff.1 h
    cases h
  all_goals exact h

end

/-! ### Relations that computations keep -/

/-- Whatever becomes of the computation, the machines before and after it are related. -/
def Keeps (R : Machine φ → Machine φ → Prop) (x : Run φ α) : Prop :=
  ∀ m, R m (x m).2

namespace Keeps

variable {R : Machine φ → Machine φ → Prop} [IsPreorder (Machine φ) R]
variable {x : Run φ α} {f : α → Run φ β}

omit [IsPreorder (Machine φ) R] in
theorem rel_of_eq {ended : Except Stop α} (hx : Keeps R x) (h : x m = (ended, m')) : R m m' := by
  have hm := hx m
  rwa [h] at hm

theorem pure (a : α) : Keeps R (Pure.pure a : Run φ α) :=
  fun m => refl_of R m

theorem stop (s : Stop) : Keeps R (Run.stop s : Run φ α) :=
  fun m => refl_of R m

theorem fail (failure : Failure) : Keeps R (Run.fail failure : Run φ α) :=
  stop _

theorem get : Keeps R (Run.get : Run φ (Machine φ)) :=
  fun m => refl_of R m

theorem ofExcept (answer : Except Failure α) : Keeps R (Run.ofExcept answer : Run φ α) := by
  cases answer with
  | ok a => exact pure a
  | error failure => exact fail failure

theorem bind (hx : Keeps R x) (hf : ∀ a, Keeps R (f a)) : Keeps R (x >>= f) := by
  intro m
  have h := hx m
  rw [bind_apply]
  rcases hx : x m with ⟨stop | a, m₁⟩
  all_goals rw [hx] at h
  · exact h
  · exact trans_of R h (hf a m₁)

omit [IsPreorder (Machine φ) R] in
theorem attempt (hx : Keeps R x) : Keeps R (Run.attempt x) := by
  intro m
  rw [snd_attempt]
  exact hx m

omit [IsPreorder (Machine φ) R] in
theorem modify {change : Machine φ → Machine φ} (h : ∀ m, R m (change m)) :
    Keeps R (Run.modify change) :=
  h

variable [FaultModel φ]

omit [IsPreorder (Machine φ) R] in
theorem ask {op : StoreOp} (h : ∀ m : Machine φ, R m { m with store := (m.store.perform op).2 }) :
    Keeps R (Run.ask op) :=
  h

omit [IsPreorder (Machine φ) R] in
theorem store {op : StoreOp} (h : ∀ m : Machine φ, R m { m with store := (m.store.perform op).2 }) :
    Keeps R (Run.store op) := by
  intro m
  rw [store_apply]
  exact h m

omit [IsPreorder (Machine φ) R] in
theorem perform {p : Procedure α}
    (h : ∀ m : Machine φ, R m { m with store := (m.store.follow p).2 }) :
    Keeps R (Run.perform p) := by
  intro m
  rw [perform_apply]
  exact h m

theorem undoOnFailure {mark : Nat} (hrevert : Keeps R (Run.store (.revert mark))) (hx : Keeps R x) :
    Keeps R (Run.undoOnFailure mark x) := by
  refine .bind hx.attempt fun answer => ?_
  cases answer with
  | ok a => exact .pure a
  | error failure => exact .bind hrevert fun _ => .fail failure

end Keeps

/-! ### How computations stop -/

/-- If the computation stops, then in one of these ways. -/
def StopsWithin (stops : Stop → Prop) (x : Run φ α) : Prop :=
  ∀ m stop, (x m).1 = .error stop → stops stop

/-- The computation may panic, but it does not fail. -/
abbrev NeverFails (x : Run φ α) : Prop :=
  StopsWithin (fun stop => ∀ failure, stop ≠ .failed failure) x

/-- The computation may fail, but it does not panic. -/
abbrev NeverPanics (x : Run φ α) : Prop :=
  StopsWithin (fun stop => ∀ message, stop ≠ .panicked message) x

/-- The computation may fail, with a failure of the store or of the machine itself, but it does not
stop in any other way. -/
abbrev OnlyFails (x : Run φ α) : Prop :=
  StopsWithin (fun stop =>
    ∃ failure : Failure, failure.propagates = true ∧ stop = .failed failure) x

namespace StopsWithin

variable {stops : Stop → Prop} {x : Run φ α} {f : α → Run φ β}

theorem of_ok (h : ∀ m, ∃ a, (x m).1 = .ok a) : StopsWithin stops x := by
  intro m stop hstop
  obtain ⟨a, ha⟩ := h m
  rw [ha] at hstop
  cases hstop

theorem mono {stops' : Stop → Prop} (hx : StopsWithin stops x)
    (h : ∀ stop, stops stop → stops' stop) : StopsWithin stops' x :=
  fun m stop hstop => h stop (hx m stop hstop)

theorem pure (a : α) : StopsWithin stops (Pure.pure a : Run φ α) :=
  of_ok fun _ => ⟨a, rfl⟩

theorem get : StopsWithin stops (Run.get : Run φ (Machine φ)) :=
  of_ok fun m => ⟨m, rfl⟩

theorem modify (change : Machine φ → Machine φ) : StopsWithin stops (Run.modify change) :=
  of_ok fun _ => ⟨(), rfl⟩

theorem fail {failure : Failure} (h : stops (.failed failure)) :
    StopsWithin stops (Run.fail failure : Run φ α) := by
  rintro m stop ⟨⟩
  exact h

theorem bind (hx : StopsWithin stops x) (hf : ∀ a, StopsWithin stops (f a)) :
    StopsWithin stops (x >>= f) := by
  intro m stop h
  have hxm := hx m
  rw [bind_apply] at h
  rcases hx : x m with ⟨stop' | a, m₁⟩
  all_goals rw [hx] at h hxm
  · -- the first part stopped, in one of its ways
    exact hxm stop (congrArg Except.error (Except.error.inj h))
  · exact hf a m₁ stop h

end StopsWithin

theorem NeverFails.attempt (x : Run φ α) : NeverFails (Run.attempt x) := by
  intro m stop h failure hfailed
  rw [attempt_apply, hfailed] at h
  rcases hx : x m with ⟨(_ | _ | _) | a, m₁⟩
  all_goals
    rw [hx] at h
    cases h

theorem NeverPanics.fail (failure : Failure) : NeverPanics (Run.fail failure : Run φ α) := by
  intro m stop h message hpanicked
  cases h
  cases hpanicked

theorem NeverPanics.store [FaultModel φ] (op : StoreOp) : NeverPanics (Run.store op : Run φ _) := by
  intro m stop h message hpanicked
  rw [store_apply, hpanicked] at h
  exact ofStore_ne_panicked _ message h

theorem NeverPanics.perform [FaultModel φ] (p : Procedure α) :
    NeverPanics (Run.perform p : Run φ α) := by
  intro m stop h message hpanicked
  rw [perform_apply, hpanicked] at h
  exact ofStore_ne_panicked _ message h

theorem OnlyFails.store [FaultModel φ] (op : StoreOp) : OnlyFails (Run.store op : Run φ _) := by
  intro m stop h
  rw [store_apply] at h
  exact failed_of_ofStore h

theorem OnlyFails.perform [FaultModel φ] (p : Procedure α) :
    OnlyFails (Run.perform p : Run φ α) := by
  intro m stop h
  rw [perform_apply] at h
  exact failed_of_ofStore h

theorem OnlyFails.fail {failure : Failure} (h : failure.propagates = true) :
    OnlyFails (Run.fail failure : Run φ α) :=
  StopsWithin.fail ⟨failure, h, rfl⟩

/-- What only fails has an answer once its failures are answers. -/
theorem OnlyFails.attempt {stops : Stop → Prop} {x : Run φ α} (hx : OnlyFails x) :
    StopsWithin stops (Run.attempt x) := by
  refine .of_ok fun m => ?_
  rw [attempt_apply]
  rcases hxm : x m with ⟨stop | a, m₁⟩
  · obtain ⟨failure, -, rfl⟩ := hx m stop (congrArg Prod.fst hxm)
    exact ⟨_, rfl⟩
  · exact ⟨_, rfl⟩

theorem OnlyFails.undoOnFailure [FaultModel φ] {mark : Nat} {x : Run φ α} (hx : OnlyFails x) :
    OnlyFails (Run.undoOnFailure mark x) := by
  intro m stop h
  rw [Run.undoOnFailure, bind_apply, attempt_apply] at h
  rcases hxm : x m with ⟨stop' | a, m₁⟩
  all_goals rw [hxm] at h
  · -- the failure is handed on, unless going back fails itself
    obtain ⟨failure, hpropagates, rfl⟩ := hx m stop' (congrArg Prod.fst hxm)
    have hback : OnlyFails (φ := φ) (α := α) (do
        Run.store (.revert mark)
        Run.fail failure) :=
      .bind (OnlyFails.store _) fun _ => OnlyFails.fail hpropagates
    exact hback m₁ stop h
  · cases h

theorem NeverPanics.attempt {x : Run φ α} (hx : NeverPanics x) : NeverPanics (Run.attempt x) := by
  intro m stop h message hpanicked
  rw [attempt_apply, hpanicked] at h
  rcases hxm : x m with ⟨(failure | message' | _) | a, m₁⟩
  all_goals rw [hxm] at h
  · cases h
  · exact hx m (.panicked message') (by rw [hxm]) message' rfl
  · cases h
  · cases h

/-- **A guarded computation does not panic.** -/
theorem NeverPanics.guarded [FaultModel φ] (x : Run φ α) : NeverPanics (Run.guarded x) := by
  intro m stop h message hpanicked
  rw [guarded_apply, hpanicked] at h
  rcases hx : x m with ⟨(failure | message' | _) | a, m₁⟩
  all_goals rw [hx] at h
  · cases h
  · -- the panic is caught, and what is done about it fails
    have hcaught : NeverPanics (φ := φ) (α := α) (do
        Run.store (.revert m.store.ledger.snapshot)
        Run.modify fun after => { after with depth := m.depth }
        Run.fail (.internal (.panic (message'.getD unknownPanic)))) :=
      .bind (NeverPanics.store _) fun _ => .bind (.modify _) fun _ => NeverPanics.fail _
    exact hcaught m₁ _ h message rfl
  · cases h
  · cases h

end Run

/-- Nothing stops a storage write where no call is refused. -/
theorem Host.ledger_storeWord (host : Host) (account : Address) (key value : Word)
    (m : Machine NoFaults) :
    (host.storeWord account key value m).2.store.ledger =
      m.store.ledger.setState account key value := by
  have hread : (Run.store (.getState account key) : Run NoFaults Word) m =
      (.ok ((m.store.ledger.accounts.get account).storage.getD key 0), m) := rfl
  rw [storeWord, Run.bind_of_ok hread]
  unfold record tell
  cases host.env.txHash <;> rfl

end CallWatch
