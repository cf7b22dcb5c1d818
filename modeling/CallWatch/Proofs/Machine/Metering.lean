import CallWatch.Proofs.Machine.Balance
import CallWatch.Proofs.Machine.Gas
import CallWatch.Proofs.Machine.LateFailure
import CallWatch.Proofs.Machine.Nesting

/-!
# Gas never grows

A program that is metered pays from the gas of its frame, sets gas aside for each primitive that it
dispatches, and takes back at most what that primitive hands back (`CallTree.Metered`).  Nothing
else is asked of it, and nothing of how much the primitives hand back: that they hand back at most
what they were given is what is shown here, for all of them at once, however deeply they are nested
(`Host.gas_never_grows`).

The readings of the gas counter are natural numbers, so one that does not fit into 64 bits would
show; there is none.
-/

namespace CallWatch

open Run

namespace CallTree

/-- The primitive that ran. -/
def primitive : CallTree → Primitive
  | bare p _ | framed p _ _ _ _ => p

/-- What it answered. -/
def answer : CallTree → Except Stop Outcome
  | bare _ answer | framed _ _ _ _ answer => answer

/-- The gas that it handed back, which is none if it did not end with an outcome. -/
def gasBack (call : CallTree) : Nat :=
  match call.answer with
  | .ok outcome => outcome.gasLeft.toNat
  | .error _ => 0

/-- It handed back at most the gas that it was given. -/
def IsThrifty (call : CallTree) : Prop :=
  ∀ outcome, call.answer = .ok outcome → outcome.gasLeft ≤ call.primitive.gas

theorem IsThrifty.gasBack_le {call : CallTree} (h : call.IsThrifty) :
    call.gasBack ≤ call.primitive.gas.toNat := by
  unfold gasBack
  cases hanswer : call.answer with
  | ok outcome => exact UInt64.le_iff_toNat_le.1 (h outcome hanswer)
  | error stop => exact Nat.zero_le _

/-- How the gas counter of a frame runs along the primitives that its program dispatches.  Before
each of them the frame pays, so that `paid` is left, and sets the gas of the primitive aside;
afterwards it takes back at most what the primitive handed back.  `readings` are the counter after
each of them, and `left` is what the frame has in the end. -/
inductive Metered : (gas : Nat) → (calls : List CallTree) → (readings : List Nat) →
    (left : Nat) → Prop
  | done {gas left : Nat} (hleft : left ≤ gas) : Metered gas [] [] left
  | call {gas paid refund left : Nat} {call : CallTree} {calls : List CallTree}
      {readings : List Nat} (hpaid : paid ≤ gas) (hbudget : call.primitive.gas.toNat ≤ paid)
      (hrefund : refund ≤ call.gasBack)
      (hrest : Metered (paid - call.primitive.gas.toNat + refund) calls readings left) :
      Metered gas (call :: calls) ((paid - call.primitive.gas.toNat + refund) :: readings) left

/-- **The counter never shows more than in the beginning**, if no primitive hands back more than it
was given. -/
theorem Metered.le {gas left : Nat} {calls : List CallTree} {readings : List Nat}
    (h : Metered gas calls readings left) (hcalls : ∀ call ∈ calls, call.IsThrifty) :
    left ≤ gas ∧ ∀ r ∈ readings, r ≤ gas := by
  induction h with
  | done hleft => exact ⟨hleft, nofun⟩
  | @call gas paid refund left call calls readings hpaid hbudget hrefund hrest ih =>
    obtain ⟨hcall, hcalls⟩ := List.forall_mem_cons.1 hcalls
    obtain ⟨hleft, hreadings⟩ := ih hcalls
    have hback := hcall.gasBack_le
    -- what is taken back was set aside before
    have hreading : paid - call.primitive.gas.toNat + refund ≤ gas := by omega
    refine ⟨Nat.le_trans hleft hreading, List.forall_mem_cons.2 ⟨hreading, fun r hr => ?_⟩⟩
    exact Nat.le_trans (hreadings r hr) hreading

end CallTree

/-- The gas that a request sets aside. -/
def Query.budget : Query → Nat
  | .dispatch p => p.gas.toNat
  | _ => 0

/-- The gas that comes back with a reply. -/
def Query.gasBack : (q : Query) → q.Reply → Nat
  | .dispatch _, .ok outcome => outcome.gasLeft.toNat
  | _, _ => 0

/-- Whether a program can pay for all that it does from this much gas and from what comes back to
it, whatever the replies to its requests; `left` is what it hands back itself.  There are no guarded
parts in it. -/
def Program.Affords {α : Type} (left : α → Nat) : (gas : Nat) → Program α → Prop
  | gas, .done value => left value ≤ gas
  | _, .panic _ => True
  | gas, .ask query next =>
    query.budget ≤ gas ∧
      ∀ reply, (next reply).Affords left (gas - query.budget + query.gasBack reply)
  | _, .guarded _ _ => False

open CallTree

namespace Host

variable {φ : Type} [FaultModel φ] {host : Host}

/-! ### Trees within trees -/

section

variable {nested : Primitive → Run φ Outcome} {tree : Primitive → Machine φ → CallTree}
  {call : CallTree}

theorem exists_of_mem_runCalls {α : Type} {program : Program α} {m : Machine φ}
    (h : call ∈ host.runCalls nested tree program m) : ∃ p m', call = tree p m' := by
  have hafter {β : Type} {x : Run φ β} {next : β → Machine φ → List CallTree} {m : Machine φ}
      (h : call ∈ callsAfter x next m) : ∃ b m', call ∈ next b m' := by
    unfold callsAfter at h
    split at h
    next b m' _ => exact ⟨b, m', h⟩
    next => cases h
  induction program generalizing m with
  | done | panic => cases h
  | ask query next ih =>
    rcases List.mem_append.1 h with h | h
    · cases query with
      | dispatch p => exact ⟨p, m, List.mem_singleton.1 h⟩
      | _ => cases h
    · obtain ⟨reply, m', h⟩ := hafter h
      exact ih reply h
  | guarded body next ihBody ihNext =>
    rcases List.mem_append.1 h with h | h
    · exact ihBody h
    · obtain ⟨answer, m', h⟩ := hafter h
      exact ihNext answer h

theorem exists_of_mem_frameCalls {frame : Frame} {input : Bytes} {m : Machine φ}
    (h : call ∈ host.frameCalls nested tree frame input m) : ∃ p m', call = tree p m' := by
  rcases host.runFrame_cases frame input m with ⟨ended, hends⟩ | ⟨-, depth, -, hstarts⟩
  · rw [(hends nested).2.1 tree] at h
    cases h
  · rw [(hstarts nested).2.1 tree] at h
    exact exists_of_mem_runCalls h

/-- A tree whose frame ran holds the primitives of that frame. -/
theorem primitiveTree_cases (host : Host) (nested : Primitive → Run φ Outcome)
    (tree : Primitive → Machine φ → CallTree) (p : Primitive) (m : Machine φ) :
    host.primitiveTree nested tree p m = .bare p (host.primitive nested p m).1 ∨
      ∃ frame m₁ ended, host.primitiveTree nested tree p m =
        .framed p frame (host.frameCalls nested tree frame frame.calldata m₁) ended
          (host.primitive nested p m).1 := by
  unfold primitiveTree
  rcases host.setUp p m with ⟨stop | outcome | ⟨mark, frame⟩, m₁⟩
  · exact .inl rfl
  · exact .inl rfl
  · exact .inr ⟨frame, m₁, _, rfl⟩

end

/-- A tree is bare, or its frame ran, and then it holds the trees of the primitives inside. -/
theorem treeWithin_cases (host : Host) (bound : Nat) (p : Primitive) (m : Machine φ) :
    host.treeWithin bound p m = .bare p (host.dispatchWithin bound p m).1 ∨
      ∃ bound' frame nested ended, bound = bound' + 1 ∧
        host.treeWithin bound p m =
          .framed p frame nested ended (host.dispatchWithin bound p m).1 ∧
        ∀ call ∈ nested, ∃ (p' : Primitive) (m' : Machine φ),
          call = host.treeWithin bound' p' m' := by
  cases bound with
  | zero => exact .inl rfl
  | succ bound =>
    rcases host.primitiveTree_cases (host.dispatchWithin bound) (host.treeWithin bound) p m with
      htree | ⟨frame, m₁, ended, htree⟩
    · exact .inl htree
    · exact .inr ⟨bound, frame, _, ended, rfl, htree, fun _ => exists_of_mem_frameCalls⟩

theorem primitive_treeWithin (bound : Nat) (p : Primitive) (m : Machine φ) :
    (host.treeWithin bound p m).primitive = p := by
  rcases host.treeWithin_cases bound p m with h | ⟨_, _, _, _, _, h, -⟩
  all_goals
    rw [h]
    rfl

theorem answer_treeWithin (bound : Nat) (p : Primitive) (m : Machine φ) :
    (host.treeWithin bound p m).answer = (host.dispatchWithin bound p m).1 := by
  rcases host.treeWithin_cases bound p m with h | ⟨_, _, _, _, _, h, -⟩
  all_goals
    rw [h]
    rfl

/-- **Whatever is nested in a primitive is a primitive that ran**, at any depth. -/
theorem exists_of_mem_calls {bound : Nat} {p : Primitive} {m : Machine φ} {call : CallTree}
    (h : call ∈ (host.treeWithin bound p m).calls) :
    ∃ (bound' : Nat) (p' : Primitive) (m' : Machine φ),
      call = host.treeWithin bound' p' m' := by
  induction bound generalizing p m with
  | zero => exact ⟨0, p, m, List.mem_singleton.1 h⟩
  | succ bound ih =>
    rcases host.treeWithin_cases (bound + 1) p m with
      htree | ⟨_, frame, nested, ended, hbound, htree, hnested⟩
    · rw [htree] at h
      exact ⟨bound + 1, p, m, (List.mem_singleton.1 h).trans htree.symm⟩
    · cases hbound
      rw [htree] at h
      rcases List.mem_cons.1 h with h | h
      · exact ⟨bound + 1, p, m, h.trans htree.symm⟩
      · obtain ⟨child, hchild, hcall⟩ := mem_allCalls.1 h
        obtain ⟨p', m', rfl⟩ := hnested child hchild
        exact ih hcall

/-! ### Metered programs -/

/-- The programs of all frames are metered as they run: from the gas of the frame to the gas that
they end with, if they end. -/
def Meters (φ : Type) [FaultModel φ] (host : Host) : Prop :=
  ∀ bound frame input (m : Machine φ), ∃ readings left,
    Metered frame.gasRemaining.toNat
      (host.runCalls (host.dispatchWithin bound) (host.treeWithin bound)
        (host.interpreter frame input) m) readings left ∧
    ∀ ended, (host.run (host.dispatchWithin bound) (host.interpreter frame input) m).1 =
      .ok ended → ended.gasLeft.toNat = left

theorem isThrifty_treeWithin {bound : Nat}
    (h : ∀ p, Yields (φ := φ) (fun outcome => outcome.gasLeft ≤ p.gas)
      (host.dispatchWithin bound p)) (p : Primitive) (m : Machine φ) :
    (host.treeWithin bound p m).IsThrifty := by
  intro outcome hanswer
  rw [answer_treeWithin] at hanswer
  rw [primitive_treeWithin]
  exact h p m outcome _ (Prod.ext hanswer rfl)

/-- A metered program ends with no more gas than its frame had, if the primitives in it do. -/
theorem yields_run_of_meters (h : host.Meters φ) {bound : Nat}
    (hnested : ∀ p, Yields (φ := φ) (fun outcome => outcome.gasLeft ≤ p.gas)
      (host.dispatchWithin bound p)) (frame : Frame) (input : Bytes) :
    Yields (φ := φ) (fun ended => ended.gasLeft ≤ frame.gasRemaining)
      (host.run (host.dispatchWithin bound) (host.interpreter frame input)) := by
  intro m ended m' hrun
  obtain ⟨readings, left, hmetered, hleft⟩ := h bound frame input m
  have hcalls : ∀ call ∈ host.runCalls (host.dispatchWithin bound) (host.treeWithin bound)
      (host.interpreter frame input) m, call.IsThrifty := by
    intro call hcall
    obtain ⟨p, m₁, rfl⟩ := exists_of_mem_runCalls hcall
    exact isThrifty_treeWithin hnested p m₁
  have hgas : ended.gasLeft.toNat = left := hleft ended (congrArg Prod.fst hrun)
  rw [UInt64.le_iff_toNat_le, hgas]
  exact (hmetered.le hcalls).1

/-- **Metering spares gas**, by induction on how deeply primitives may nest: what comes back from
the primitives in a frame is at most what the frame set aside for them. -/
theorem sparesGas_of_meters (h : host.Meters φ) : host.SparesGas φ := by
  intro bound
  have hnested (p : Primitive) : Yields (φ := φ) (fun outcome => outcome.gasLeft ≤ p.gas)
      (host.dispatchWithin bound p) := by
    induction bound generalizing p with
    | zero => exact .stop _
    | succ bound ih => exact yields_primitive (yields_run_of_meters h ih) p
  exact yields_run_of_meters h hnested

/-- What comes back with a reply is what the primitive handed back. -/
theorem gasBack_of_reply {bound : Nat} {p : Primitive} {m m' : Machine φ}
    {reply : (Query.dispatch p).Reply}
    (h : host.reply (host.dispatchWithin bound) (.dispatch p) m = (.ok reply, m')) :
    Query.gasBack (.dispatch p) reply = (host.treeWithin bound p m).gasBack := by
  change attempt (host.dispatchWithin bound p) m = _ at h
  rw [gasBack, answer_treeWithin]
  rw [attempt_apply] at h
  rcases hnested : host.dispatchWithin bound p m with ⟨(failure | message | _) | outcome, m₁⟩
  all_goals
    rw [hnested] at h
    cases h
  all_goals rfl

/-- The counter runs along the primitive that a request dispatches, if it does. -/
theorem metered_replyCalls (host : Host) {bound gas last : Nat} {query : Query} {m : Machine φ}
    {calls : List CallTree} {readings : List Nat} (hbudget : query.budget ≤ gas) (back : Nat)
    (hback : ∀ p, query = .dispatch p → back ≤ (host.treeWithin bound p m).gasBack)
    (hother : (∀ p, query ≠ .dispatch p) → back = 0)
    (hrest : Metered (gas - query.budget + back) calls readings last) :
    ∃ readings,
      Metered gas (replyCalls (host.treeWithin bound) query m ++ calls) readings last := by
  cases query with
  | dispatch p =>
    have hgas : (host.treeWithin bound p m).primitive.gas.toNat = p.gas.toNat := by
      rw [primitive_treeWithin]
    have hrest' : Metered (gas - (host.treeWithin bound p m).primitive.gas.toNat + back) calls
        readings last := by
      rwa [hgas]
    exact ⟨_, .call (Nat.le_refl gas) (hgas.trans_le hbudget) (hback p rfl) hrest'⟩
  | _ =>
    obtain rfl := hother nofun
    exact ⟨readings, hrest⟩

/-- A program that can pay for what it does is metered. -/
theorem metered_of_affords {α : Type} {left : α → Nat} {gas : Nat} {program : Program α}
    (h : program.Affords left gas) (bound : Nat) (m : Machine φ) :
    ∃ readings last,
      Metered gas (host.runCalls (host.dispatchWithin bound) (host.treeWithin bound) program m)
        readings last ∧
      ∀ value, (host.run (host.dispatchWithin bound) program m).1 = .ok value →
        left value = last := by
  induction program generalizing gas m with
  | done value =>
    refine ⟨[], left value, .done h, ?_⟩
    rintro _ ⟨⟩
    rfl
  | panic message => exact ⟨[], 0, .done (Nat.zero_le _), nofun⟩
  | guarded => exact h.elim
  | ask query next ih =>
    obtain ⟨hbudget, hnext⟩ := h
    rw [runCalls, Host.run, bind_apply, callsAfter]
    rcases hreply : host.reply (host.dispatchWithin bound) query m with ⟨stop | reply, m₁⟩
    · -- nothing comes back, and nothing follows
      have hrest : Metered (gas - query.budget + 0) [] [] 0 := .done (Nat.zero_le _)
      obtain ⟨readings, hmetered⟩ := host.metered_replyCalls (m := m) hbudget 0
        (fun _ _ => Nat.zero_le _) (fun _ => rfl) hrest
      exact ⟨readings, 0, hmetered, fun _ h => by cases h⟩
    · obtain ⟨readings, last, hmetered, hlast⟩ := ih reply (hnext reply) m₁
      have hback (p : Primitive) (hp : query = .dispatch p) :
          query.gasBack reply ≤ (host.treeWithin bound p m).gasBack := by
        subst hp
        exact Nat.le_of_eq (gasBack_of_reply hreply)
      have hother (hp : ∀ p, query ≠ .dispatch p) : query.gasBack reply = 0 := by
        cases query with
        | dispatch p => exact (hp p rfl).elim
        | _ => rfl
      obtain ⟨readings, hmetered⟩ := host.metered_replyCalls hbudget _ hback hother hmetered
      exact ⟨readings, last, hmetered, hlast⟩

/-- Programs that can pay for what they do, whatever the replies, are metered when they run. -/
theorem meters_of_affords
    (h : ∀ frame input, (host.interpreter frame input).Affords (fun ended => ended.gasLeft.toNat)
      frame.gasRemaining.toNat) : host.Meters φ :=
  fun bound frame input m => metered_of_affords (h frame input) bound m

/-! ### Transactions -/

section

variable {tx : Transaction} {m m' : Machine φ} {stops : Stop → Prop}

theorem stopsWithin_watchdog (kind : WatchKind) (op : WatchOp) :
    StopsWithin (φ := φ) stops (watchdog kind op) := by
  refine .of_ok fun m => ?_
  obtain ⟨balance, store, hanswer⟩ := watchdog_apply kind op m
  exact ⟨_, congrArg Prod.fst hanswer⟩

theorem stopsWithin_finalize (receipt : Receipt) :
    StopsWithin (φ := φ) stops (finalize receipt) := by
  refine .bind (stopsWithin_watchdog _ _) fun general => .bind .get fun before => ?_
  refine .bind (stopsWithin_watchdog _ _) fun tracer => ?_
  split <;> exact .pure _

/-- Arming fails only with the fault of a watchdog. -/
theorem stopsWithin_arm (tx : Transaction) :
    StopsWithin (φ := φ) (fun stop => ∃ fault : Unreadable, stop = .failed fault.failure)
      (arm tx) := by
  have hfail (fault : Unreadable) :
      StopsWithin (φ := φ) (α := Unit)
        (fun stop => ∃ fault : Unreadable, stop = .failed fault.failure) (fail fault.failure) := by
    rintro m stop ⟨⟩
    exact ⟨fault, rfl⟩
  refine .bind (stopsWithin_watchdog _ _) fun general => ?_
  cases general with
  | error fault => exact hfail fault
  | ok _ =>
    refine .bind (stopsWithin_watchdog _ _) fun tracer => ?_
    cases tracer with
    | ok _ => exact .pure _
    | error fault => exact .bind (stopsWithin_watchdog _ _) fun _ => hfail fault

/-- A run that failed is abandoned with its own failure. -/
theorem stopsWithin_abandon (tx : Transaction) (failure : Failure) :
    StopsWithin (φ := φ) (fun stop => stop = .failed failure) (abandon tx failure) := by
  refine .bind (.bind (stopsWithin_watchdog _ _) fun _ => stopsWithin_watchdog _ _) fun _ => ?_
  refine .bind (stopsWithin_finalize _) fun _ => ?_
  rintro m stop ⟨⟩
  rfl

/-- The gas that is used and the gas that is left are the gas of the transaction. -/
theorem gas_of_conclude {outcome : Outcome} {execution : Execution}
    (h : conclude tx outcome m = (.ok execution, m')) :
    execution.gasUsed.toNat + execution.gasLeft.toNat = tx.gasLimit.toNat := by
  obtain ⟨_, m₁, -, h⟩ := bind_eq_ok_iff.1 h
  cases hused : Checked.sub tx.gasLimit outcome.gasLeft with
  | none =>
    rw [hused] at h
    cases h
  | some gasUsed =>
    rw [hused] at h
    obtain ⟨fault?, m₂, -, h⟩ := bind_eq_ok_iff.1 h
    cases fault? with
    | some fault => cases h
    | none =>
      cases h
      exact Checked.sub_eq_some_iff.1 hused

/-- A transaction ends with an execution only where its run had an outcome that was concluded. -/
theorem exists_conclude_of_execute {execution : Execution}
    (h : host.execute tx m = (.ok execution, m')) :
    ∃ outcome m₁, conclude tx outcome m₁ = (.ok execution, m') := by
  unfold execute at h
  by_cases hbound : host.env.txHash = some tx.hash
  · rw [if_pos hbound] at h
    obtain ⟨_, m₁, -, h⟩ := bind_eq_ok_iff.1 h
    obtain ⟨ended, m₂, -, h⟩ := bind_eq_ok_iff.1 h
    cases ended with
    | ok outcome => exact ⟨outcome, m₂, h⟩
    | error failure =>
      obtain ⟨_, m₃, -, h⟩ := bind_eq_ok_iff.1 h
      obtain ⟨_, m₄, -, h⟩ := bind_eq_ok_iff.1 h
      cases h
  · rw [if_neg hbound] at h
    cases h

/-- **A transaction underflows only if its run does**, as long as the run leaves at most the gas of
the transaction. -/
theorem runRoot_of_underflow
    (hgas : Yields (φ := φ) (fun outcome => outcome.gasLeft ≤ tx.gasLimit) (host.runRoot tx))
    (h : (host.execute tx m).1 = .error (.failed (.internal .underflow))) :
    ∃ m₁, arm tx m = (.ok (), m₁) ∧
      (host.runRoot tx m₁).1 = .error (.failed (.internal .underflow)) := by
  unfold execute at h
  by_cases hbound : host.env.txHash = some tx.hash
  · rw [if_pos hbound, bind_apply] at h
    rcases harm : arm tx m with ⟨stop | _, m₁⟩
    · -- a watchdog has a failure of its own
      obtain ⟨fault, rfl⟩ := stopsWithin_arm tx m stop (congrArg Prod.fst harm)
      rw [harm] at h
      cases h
    refine ⟨m₁, rfl, ?_⟩
    rw [harm] at h
    dsimp only at h
    rw [bind_apply, attempt_apply] at h
    rcases hrun : host.runRoot tx m₁ with ⟨(failure | message | _) | outcome, m₂⟩
    all_goals
      rw [hrun] at h
      dsimp only at h
    · exact (congrArg Except.error (stopsWithin_abandon tx failure m₂ _ h)).symm
    · cases h
    · cases h
    · -- the gas that was used can be told
      have hleft : outcome.gasLeft ≤ tx.gasLimit := hgas m₁ outcome m₂ hrun
      rcases reason_of_conclude (Prod.ext h rfl) with ⟨hover, -⟩ | ⟨_, _, _, _, -, -, hfault⟩
      · exact (UInt64.not_lt.2 hleft hover).elim
      · cases hfault
  · rw [if_neg hbound] at h
    cases h

end

/-! ### The main statement -/

/-- **Gas never grows.**  If the programs of all frames are metered, then, whatever the store, its
faults and the programs do besides,

* every primitive that runs, at any depth, hands back at most the gas that it was given, and so
  does a primitive as a whole;
* whatever a frame pays, sets aside and takes back, its gas counter never shows more than the gas
  that the frame had, so each sum is a 64-bit number again;
* a transaction does not fail with an underflow where its gas is accounted for, and the gas that it
  used and the gas that is left add up to its limit. -/
theorem gas_never_grows (h : host.Meters φ) :
    (∀ (p : Primitive) (m : Machine φ),
      (∀ outcome m', host.dispatch p m = (.ok outcome, m') → outcome.gasLeft ≤ p.gas) ∧
      ∀ call ∈ (host.callTree p m).calls,
        (∀ outcome, call.answer = .ok outcome → outcome.gasLeft ≤ call.primitive.gas) ∧
        ∀ q frame nested ended answer, call = .framed q frame nested ended answer →
          ∀ readings left, Metered frame.gasRemaining.toNat nested readings left →
            left ≤ frame.gasRemaining.toNat ∧
            ∀ r ∈ readings, ∃ counter : UInt64, counter.toNat = r ∧
              counter ≤ frame.gasRemaining) ∧
    (∀ (tx : Transaction) (m : Machine φ),
      (host.execute tx m).1 = .error (.failed (.internal .underflow)) →
        ∃ m₁, arm tx m = (.ok (), m₁) ∧
          (host.runRoot tx m₁).1 = .error (.failed (.internal .underflow))) ∧
    ∀ (tx : Transaction) (m : Machine φ) execution m',
      host.execute tx m = (.ok execution, m') →
        execution.gasUsed.toNat + execution.gasLeft.toNat = tx.gasLimit.toNat := by
  have hspares := sparesGas_of_meters h
  have hthrifty (bound : Nat) (p : Primitive) (m : Machine φ) :
      (host.treeWithin bound p m).IsThrifty :=
    isThrifty_treeWithin (yields_dispatchWithin hspares bound) p m
  refine ⟨fun p m => ⟨?_, fun call hcall => ?_⟩, fun tx m => ?_, fun tx m execution m' hend => ?_⟩
  · exact yields_dispatchWithin hspares nestingBound p m
  · obtain ⟨bound, p', m', rfl⟩ := exists_of_mem_calls hcall
    refine ⟨hthrifty bound p' m', ?_⟩
    intro q frame nested ended answer htree readings left hmetered
    rcases host.treeWithin_cases bound p' m' with
      hbare | ⟨bound', frame', nested', ended', -, hframed, hnested⟩
    · rw [hbare] at htree
      cases htree
    rw [hframed] at htree
    cases htree
    have hcalls : ∀ call ∈ nested, call.IsThrifty := by
      intro call hcall
      obtain ⟨p₁, m₁, rfl⟩ := hnested call hcall
      exact hthrifty bound' p₁ m₁
    obtain ⟨hleft, hreadings⟩ := hmetered.le hcalls
    refine ⟨hleft, fun r hr => ⟨UInt64.ofNat r, ?_, ?_⟩⟩
    all_goals
      have hr := hreadings r hr
      have hof : (UInt64.ofNat r).toNat = r :=
        UInt64.toNat_ofNat_of_lt' (Nat.lt_of_le_of_lt hr frame.gasRemaining.toNat_lt)
    · exact hof
    · rwa [UInt64.le_iff_toNat_le, hof]
  · exact runRoot_of_underflow (yields_runRoot hspares tx)
  · obtain ⟨outcome, m₁, hconclude⟩ := exists_conclude_of_execute hend
    exact gas_of_conclude hconclude

end Host

/-- How much of 50 comes back with the reply to a call. -/
def Interpreter.change : Except Failure Outcome → UInt64
  | .ok outcome => if outcome.gasLeft ≤ 50 then outcome.gasLeft else 50
  | .error _ => 0

/-- Pays 10, calls account 8 with 50 set aside, and takes back what is left of these; a frame that
cannot afford that pays half of its gas. -/
def Interpreter.lending : Interpreter := fun frame _ =>
  if frame.gasRemaining < 60 then
    .done { result := .ok [], gasLeft := frame.gasRemaining / 2 }
  else
    .ask (.dispatch (.call frame.account 8 [] 50 0)) fun reply =>
      .done { result := .ok [], gasLeft := frame.gasRemaining - 60 + change reply }

namespace Host

/-- A host on which every frame lends gas to account 8. -/
def ofLending : Host where
  env := { txHash := some 7 }
  rules := ChainConfig.rules (.allForksActive 1) 0
  interpreter := .lending

/-- A machine with code at the accounts 8 and 9. -/
def lendingMachine : Machine NoFaults where
  store := { ledger := (Ledger.seed {} 9 { code := [1] }).seed 8 { code := [2] }, faults := {} }
  pair := .disabled

/-- A call of account 9. -/
def lendingCall : Transaction where
  hash := 7
  sender := 1
  kind := .call 9
  nonce := 0
  value := 0
  gasLimit := 1000
  gasPrice := 0
  data := []

theorem meters_lending : ofLending.Meters NoFaults := by
  refine meters_of_affords fun frame input => ?_
  show (Interpreter.lending frame input).Affords _ _
  unfold Interpreter.lending
  by_cases hpoor : frame.gasRemaining < 60
  · rw [if_pos hpoor]
    show (frame.gasRemaining / 2).toNat ≤ frame.gasRemaining.toNat
    rw [UInt64.toNat_div]
    exact Nat.div_le_self _ _
  · rw [if_neg hpoor]
    have hrich : 60 ≤ frame.gasRemaining := UInt64.not_lt.1 hpoor
    have hrich' : 60 ≤ frame.gasRemaining.toNat := hrich
    have hbudget : 50 ≤ frame.gasRemaining.toNat := by omega
    refine ⟨hbudget, fun reply => ?_⟩
    have hchange : (Interpreter.change reply).toNat ≤ 50 ∧
        (Interpreter.change reply).toNat ≤
          Query.gasBack (.dispatch (.call frame.account 8 [] 50 0)) reply := by
      unfold Interpreter.change
      cases reply with
      | error failure => exact ⟨Nat.zero_le _, Nat.zero_le _⟩
      | ok outcome =>
        dsimp only
        split
        next hsmall => exact ⟨hsmall, Nat.le_refl _⟩
        next hlarge => exact ⟨Nat.le_refl _, Nat.le_of_lt (UInt64.not_le.1 hlarge)⟩
    show (frame.gasRemaining - 60 + Interpreter.change reply).toNat ≤
      frame.gasRemaining.toNat - 50 + _
    have hpaid : (frame.gasRemaining - 60).toNat = frame.gasRemaining.toNat - 60 :=
      UInt64.toNat_sub_of_le _ _ hrich
    rw [UInt64.toNat_add, hpaid]
    omega

/-- Of 1000 units, account 9 pays 10 and lends 50, of which account 8 keeps 25. -/
theorem gas_never_grows_lending :
    ofLending.Meters NoFaults ∧
      (∃ outcome m', ofLending.dispatch (.call 1 9 [] 1000 0) lendingMachine = (.ok outcome, m') ∧
        outcome.gasLeft = 965 ∧ outcome.gasLeft ≤ 1000) ∧
      ∃ execution m', ofLending.execute lendingCall lendingMachine = (.ok execution, m') ∧
        execution.gasUsed = 35 ∧
        execution.gasUsed.toNat + execution.gasLeft.toNat = 1000 := by
  obtain ⟨hprimitives, -, htransactions⟩ := gas_never_grows meters_lending
  have hdispatched : (ofLending.dispatch (.call 1 9 [] 1000 0) lendingMachine).1.map (·.gasLeft) =
      .ok 965 := by
    decide +kernel
  have hexecuted : (ofLending.execute lendingCall lendingMachine).1.map (·.gasUsed) = .ok 35 := by
    decide +kernel
  refine ⟨meters_lending, ?_, ?_⟩
  · rcases hrun : ofLending.dispatch (.call 1 9 [] 1000 0) lendingMachine with ⟨stop | outcome, m'⟩
    all_goals rw [hrun] at hdispatched
    · cases hdispatched
    · exact ⟨outcome, m', rfl, Except.ok.inj hdispatched, (hprimitives _ _).1 outcome m' hrun⟩
  · rcases hrun : ofLending.execute lendingCall lendingMachine with ⟨stop | execution, m'⟩
    all_goals rw [hrun] at hexecuted
    · cases hexecuted
    · exact ⟨execution, m', rfl, Except.ok.inj hexecuted, htransactions _ _ execution m' hrun⟩

end Host

end CallWatch
