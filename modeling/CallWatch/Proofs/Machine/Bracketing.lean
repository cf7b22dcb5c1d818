import CallWatch.Proofs.Machine.Concluding
import CallWatch.Proofs.Machine.Logging
import CallWatch.Proofs.Machine.Refusal
import CallWatch.Proofs.Machine.Steadiness

/-!
# The call log brackets the call tree

On a store without faults, and with programs that use only the primitives and the boundary of the
machine and do not panic, what a primitive adds to the call log is its call tree written with
brackets (`Host.dispatch_bracketed`).  A primitive that was refused, or that found no target to
call, adds nothing.  Every other one adds an opening event with its own arguments, the blocks of
what was nested in it, and one closing event that says what its outcome says.

That the log is made of the events of the trees is `Host.logs_dispatch`.  What remains is about the
trees alone: that every frame has the depth of its nesting, and that none is left open.  Both are
carried along a run by `Host.Completes`, for as long as the nesting does not run out.
-/

namespace CallWatch

open CallTree Run

/-- Whether a request goes to the primitives or to the boundary of the machine: it neither writes
the depth, nor switches the call log, nor changes the store by itself. -/
def Query.IsBoundary : Query → Prop
  | .store op => op.IsRead
  | .setDepth _ | .setTracing _ => False
  | _ => True

theorem Query.IsBoundary.keepsLog {q : Query} (h : q.IsBoundary) : q.KeepsLog := by
  cases q with
  | store op => cases op <;> trivial
  | _ => trivial

theorem Query.IsBoundary.goesForward {q : Query} (h : q.IsBoundary) : q.GoesForward :=
  h.keepsLog.goesForward

/-- Whether a program never panics, whatever the replies to its requests. -/
def Program.IsPanicFree {α : Type} : Program α → Prop
  | .done _ => True
  | .panic _ => False
  | .ask _ next => ∀ reply, (next reply).IsPanicFree
  | .guarded body next => body.IsPanicFree ∧ ∀ answer, (next answer).IsPanicFree

/-- Whether no program of an interpreter ever panics. -/
def Interpreter.IsPanicFree (interpreter : Interpreter) : Prop :=
  ∀ frame input, (interpreter frame input).IsPanicFree

namespace Host

/-! ### Complete runs -/

section

variable {φ : Type} {m m' : Machine φ} {α β : Type}

/-- Unless the nesting ran out, the trees of a computation are blocks at this depth, and the
computation neither changed the depth of the machine nor panicked. -/
def Completes (depth : Nat) (calls : List CallTree) (m : Machine φ)
    (ended : Except Stop α × Machine φ) : Prop :=
  ended.1 ≠ .error .exhausted →
    (∀ call ∈ calls, Bracketed depth call.events) ∧ ended.2.depth = m.depth ∧
      ∀ message, ended.1 ≠ .error (.panicked message)

namespace Completes

variable {depth : Nat} {calls : List CallTree} {x : Run φ α} {f : α → Run φ β}

theorem of_isSteady (hx : IsSteady x) (m : Machine φ) : Completes depth [] m (x m) := by
  intro _
  exact ⟨by simp, hx.keeps m, fun message h => hx.neverPanics m _ h message rfl⟩

theorem bind {next : α → Machine φ → List CallTree} (hx : Completes depth calls m (x m))
    (hf : ∀ a m', m'.depth = m.depth → Completes depth (next a m') m' (f a m')) :
    Completes depth (calls ++ callsAfter x next m) m ((x >>= f) m) := by
  intro hended
  rw [bind_apply] at hended ⊢
  rw [callsAfter]
  rcases hxm : x m with ⟨stop | a, m₁⟩
  all_goals rw [hxm] at hx hended
  · obtain ⟨hcalls, hdepth, hpanics⟩ := hx fun h => hended (by cases h; rfl)
    rw [List.append_nil]
    exact ⟨hcalls, hdepth, fun message h => hpanics message (by cases h; rfl)⟩
  · obtain ⟨hcalls, hdepth, -⟩ := hx (by simp)
    obtain ⟨hnext, hdepth', hpanics⟩ := hf a m₁ hdepth hended
    refine ⟨fun call hcall => ?_, hdepth'.trans hdepth, hpanics⟩
    exact (List.mem_append.1 hcall).elim (hcalls call) (hnext call)

/-- What follows may be steady. -/
theorem bind_isSteady (hx : Completes depth calls m (x m)) (hf : ∀ a, IsSteady (f a)) :
    Completes depth calls m ((x >>= f) m) := by
  have h : Completes depth (calls ++ callsAfter x (fun _ _ => []) m) m ((x >>= f) m) :=
    bind hx fun a m' _ => of_isSteady (hf a) m'
  have hnone : callsAfter x (fun _ _ => []) m = [] := by
    unfold callsAfter
    split <;> rfl
  rwa [hnone, List.append_nil] at h

theorem attempt (hx : Completes depth calls m (x m)) :
    Completes depth calls m (Run.attempt x m) := by
  intro hended
  rw [attempt_apply] at hended ⊢
  rcases hxm : x m with ⟨(failure | message | _) | a, m₁⟩
  all_goals rw [hxm] at hx hended
  · obtain ⟨hcalls, hdepth, -⟩ := hx (by simp)
    exact ⟨hcalls, hdepth, by simp⟩
  · exact ((hx (by simp)).2.2 message rfl).elim
  · exact (hended rfl).elim
  · obtain ⟨hcalls, hdepth, -⟩ := hx (by simp)
    exact ⟨hcalls, hdepth, by simp⟩

theorem guarded [FaultModel φ] (hx : Completes depth calls m (x m)) :
    Completes depth calls m (Run.guarded x m) := by
  rw [guarded_apply]
  rcases hxm : x m with ⟨(failure | message | _) | a, m₁⟩
  all_goals rw [hxm] at hx
  · exact hx
  · exact ((hx (by simp)).2.2 message rfl).elim
  · exact hx
  · exact hx

end Completes

end

section

variable {φ : Type} [FaultModel φ] {host : Host} {nested : Primitive → Run φ Outcome}
variable {tree : Primitive → Machine φ → CallTree}

end

/-! ### Without faults -/

section

variable {host : Host} {m m' : Machine NoFaults}

end

end Host

/-- Account 8 fails, all other accounts call it and an account that is not there. -/
def Interpreter.calling : Interpreter := fun frame _ =>
  if frame.account = 8 then .done { result := .error .reverted, gasLeft := frame.gasRemaining }
  else .ask (.dispatch (.call frame.account 8 [] 5 0)) fun _ =>
    .ask (.dispatch (.call frame.account 7 [] 5 0)) fun _ =>
      .done { result := .ok [], gasLeft := frame.gasRemaining }

namespace Host

end Host

end CallWatch
