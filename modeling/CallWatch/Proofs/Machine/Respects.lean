import CallWatch.Proofs.Machine.Keeps

/-!
# What every primitive keeps

A preorder on machines that is kept by each single step of a run is kept by whole primitives,
however deeply they nest and however they end (`Host.Respects.dispatch`).  What the single steps
are is said once, in `Host.Respects`: the replies to the requests that programs are allowed to
make, the setup of a frame, the bookkeeping around it, and going back to the mark of a frame.

The proof follows the recursion of the machine: the program of a frame by induction on the program,
given the primitives that it dispatches; one primitive from its three stages; and all of them by
induction on the bound on the nesting.
-/

namespace CallWatch

/-! ### What programs ask for -/

/-- Whether all requests of a program are allowed, whatever the replies to those before. -/
def Program.Only (allowed : Query → Prop) {α : Type} : Program α → Prop
  | .done _ | .panic _ => True
  | .ask query next => allowed query ∧ ∀ reply, (next reply).Only allowed
  | .guarded body next => body.Only allowed ∧ ∀ answer, (next answer).Only allowed

/-- Whether all requests of all programs of an interpreter are allowed. -/
def Interpreter.Only (allowed : Query → Prop) (interpreter : Interpreter) : Prop :=
  ∀ frame input, (interpreter frame input).Only allowed

theorem Program.Only.mono {allowed allowed' : Query → Prop} (h : ∀ q, allowed q → allowed' q)
    {α : Type} {program : Program α} (hprogram : program.Only allowed) :
    program.Only allowed' := by
  induction program with
  | done | panic => trivial
  | ask query next ih => exact ⟨h query hprogram.1, fun reply => ih reply (hprogram.2 reply)⟩
  | guarded body next ihBody ihNext =>
    exact ⟨ihBody hprogram.1, fun answer => ihNext answer (hprogram.2 answer)⟩

/-- Whether a request does not go back in the store by itself. -/
def Query.GoesForward : Query → Prop
  | .store (.revert _) => False
  | _ => True

/-- Whether a request leaves the store alone, except for looking at it and for the primitives and
storage writes of the machine. -/
def Query.IsConfined : Query → Prop
  | .store op => op.IsRead
  | _ => True

/-- Whether an interpreter acts on the accounts only through the machine. -/
def Interpreter.IsConfined (interpreter : Interpreter) : Prop :=
  interpreter.Only Query.IsConfined

namespace Host

open Run

variable {φ : Type} [FaultModel φ] {host : Host} {allowed : Query → Prop}
variable {R : Machine φ → Machine φ → Prop} [IsPreorder (Machine φ) R]

/-! ### Frames do not fail -/

omit [FaultModel φ] in
theorem neverFails_tell (change : Word → Watchdog → Watchdog) :
    NeverFails (φ := φ) (host.tell change) := by
  unfold tell
  cases host.env.txHash with
  | none => exact .pure ()
  | some hash => exact .modify _

theorem neverFails_reply (nested : Primitive → Run φ Outcome) (q : Query) :
    NeverFails (host.reply nested q) := by
  cases q with
  | dispatch | storeWord | loadWord => exact NeverFails.attempt _
  | trace line => exact neverFails_tell _
  | store op => exact .of_ok fun _ => ⟨_, rfl⟩
  | blockHash => exact .pure _
  | isCancelled | depth | remembered => exact .bind .get fun _ => .pure _
  | cancel | setDepth | setTracing | note | remember => exact .modify _

/-- Failures of requests are replies, so a program does not fail. -/
theorem neverFails_run (nested : Primitive → Run φ Outcome) {α : Type} (program : Program α) :
    NeverFails (host.run nested program) := by
  induction program with
  | done value => exact .pure value
  | panic message =>
    intro m stop h failure hfailed
    cases h
    cases hfailed
  | ask query next ih => exact .bind (neverFails_reply nested query) ih
  | guarded body next _ ih => exact .bind (NeverFails.attempt _) ih

/-- **The failure of a frame is part of its end**, and never stops the primitive that runs it. -/
theorem neverFails_runFrame (nested : Primitive → Run φ Outcome) (frame : Frame) (input : Bytes) :
    NeverFails (host.runFrame nested frame input) := by
  unfold runFrame
  cases host.precompiles[frame.codeAddress]? with
  | some precompile => exact .pure _
  | none =>
    -- no code, cancelled, depth out of range: each ends the frame before a program runs
    dsimp only
    split
    · exact .pure _
    refine .bind .get fun before => ?_
    split
    · exact .pure _
    cases Checked.add before.depth 1 with
    | none => exact .pure _
    | some depth =>
      refine .bind (.modify _) fun _ => .bind (neverFails_run nested _) fun ended => ?_
      refine .bind .get fun after => ?_
      cases Checked.sub after.depth 1 with
      | none => exact .pure _
      | some depth => exact .bind (.modify _) fun _ => .pure _

/-! ### Leaving the program of a frame -/

/-- Leaves the program of a frame; it may have written the depth, so there need not be one to
leave. -/
def leave (ended : FrameEnd) : Run φ FrameEnd := do
  match Checked.sub (← .get).depth 1 with
  | none => return { ended with result := .error (.internal .underflow) }
  | some depth =>
    .modify fun m => { m with depth }
    return ended

omit [FaultModel φ] in
/-- The program of a frame is left at a positive depth by going one up. -/
theorem leave_of_pos {m : Machine φ} (ended : FrameEnd) (hm : 0 < m.depth.toNat) :
    ∃ left, leave ended m = (.ok ended, { m with depth := left }) ∧
      left.toNat + 1 = m.depth.toNat := by
  rw [leave, bind_of_ok (get_apply m)]
  cases hleave : Checked.sub m.depth 1 with
  | none =>
    have hzero : m.depth.toNat < 1 := UInt64.lt_iff_toNat_lt.1 (Checked.sub_eq_none_iff.1 hleave)
    omega
  | some left => exact ⟨left, rfl, Checked.sub_eq_some_iff.1 hleave⟩

omit [FaultModel φ] in
/-- Leaving a program keeps what any other depth keeps. -/
theorem keeps_leave (hdepth : ∀ (m : Machine φ) (depth : UInt64), R m { m with depth })
    (ended : FrameEnd) : Keeps R (leave ended) := by
  refine .bind .get fun after => ?_
  cases Checked.sub after.depth 1 with
  | none => exact .pure _
  | some depth => exact .bind (.modify fun m => hdepth m depth) fun _ => .pure _

/-! ### Setting up -/

theorem keeps_refusal?
    (hcan : ∀ a amount, Keeps R (Run.perform (host.env.canTransfer a amount)))
    (caller : Address) (gas : UInt64) (value? : Option Word) :
    Keeps R (host.refusal? caller gas value?) := by
  unfold refusal?
  refine .bind .get fun before => ?_
  dsimp only
  split
  · exact .pure _
  split
  · exact .pure _
  cases value? with
  | none => exact .pure _
  | some value =>
    refine .bind (hcan caller value) fun isCovered => ?_
    cases isCovered <;> exact .pure _

/-- An account is only put in place for a call if it is missing. -/
theorem keeps_ensureTarget_of_missing (host : Host) {target : Address} (value : Word)
    (hexist : Keeps R (store (.exist target)))
    (hcreate : ∀ m : Machine φ, target ∉ m.store.ledger.accounts →
      R m (store (.createAccount target) m).2) :
    Keeps R (host.ensureTarget target value) := by
  intro m
  have hread := hexist m
  rw [ensureTarget, bind_apply]
  rcases hfound : store (.exist target) m with ⟨stop | isThere, m₁⟩
  all_goals rw [hfound] at hread
  · exact hread
  rw [store_apply, Prod.mk.injEq, ofStore_eq_ok_iff] at hfound
  obtain ⟨hanswer, rfl⟩ := hfound
  obtain ⟨hcontains, hsame⟩ := Store.perform_of_ok hanswer
  obtain rfl : m.store.ledger.accounts.contains target = isThere := Except.ok.inj hcontains
  dsimp only
  split
  · exact hread
  next hmissing =>
  split
  · exact hread
  · have hnone : target ∉ (m.store.perform (.exist target)).2.ledger.accounts := by
      rw [hsame]
      exact fun hmem => hmissing (Std.ExtTreeMap.contains_iff_mem.2 hmem)
    have hcreated := hcreate { m with store := (m.store.perform (.exist target)).2 } hnone
    rw [bind_apply]
    rcases hnew : store (.createAccount target) { m with store := _ } with ⟨stop | _, m₂⟩
    all_goals
      rw [hnew] at hcreated
      exact trans_of R hread hcreated

section

variable (hstore : ∀ op : StoreOp, op.IsSetup → Keeps R (store op))

include hstore

theorem keeps_takeAccount (p : Primitive) : Keeps R (takeAccount p) := by
  cases p with
  | call | callCode | delegateCall => exact .pure _
  | create caller code gas value =>
    refine .bind (hstore _ trivial) fun nonce => ?_
    cases Checked.add nonce 1 with
    | none => exact .fail _
    | some next => exact .bind (hstore _ trivial) fun _ => .pure _

theorem keeps_ensureTarget (target : Address) (value : Word) :
    Keeps R (host.ensureTarget target value) := by
  refine .bind (hstore _ trivial) fun isThere => ?_
  split
  · exact .pure _
  split
  · exact .pure _
  · exact .bind (hstore _ trivial) fun _ => .pure _

variable (htransfer : ∀ sender receiver amount,
  Keeps R (Run.perform (host.env.transfer sender receiver amount)))

include htransfer

/-- **Entering a frame** touches the store by operations of the setup and by one transfer. -/
theorem keeps_enterFrame (account : Address) (p : Primitive) :
    Keeps R (host.enterFrame account p) := by
  cases p with
  | call caller target input gas value =>
    refine .bind (keeps_ensureTarget hstore target value) fun isThere => ?_
    split
    · refine .bind (htransfer _ _ _) fun _ => ?_
      exact .bind (hstore _ trivial) fun _ => .bind .get fun _ => .pure _
    · exact .pure _
  | callCode | delegateCall => exact .bind (hstore _ trivial) fun _ => .bind .get fun _ => .pure _
  | create caller code gas value =>
    refine .bind (hstore _ trivial) fun _ => ?_
    have hrest : Keeps R (do
        Run.perform (host.env.transfer caller account value)
        return some {
          caller, account, codeAddress := account, code, value, calldata := []
          gasLimit := gas, gasRemaining := gas, depth := (← Run.get).depth : Frame }) :=
      .bind (htransfer _ _ _) fun _ => .bind .get fun _ => .pure _
    dsimp only
    split
    · exact .bind (hstore _ trivial) fun _ => hrest
    · exact hrest

end

/-- But for the store and the call log the machines are the same. -/
def SameApart (m m' : Machine φ) : Prop :=
  m' = { m with store := m'.store, log := m'.log }

instance : IsPreorder (Machine φ) SameApart where
  refl _ := rfl
  trans m m' m'' h h' := by
    rw [SameApart] at h h' ⊢
    rw [h', h]

/-- Setting up a primitive changes the store and the call log at most. -/
theorem keeps_sameApart_setUp (p : Primitive) : Keeps (φ := φ) SameApart (host.setUp p) := by
  have hstore (op : StoreOp) : Keeps (φ := φ) SameApart (store op) := .store fun _ => rfl
  refine .bind (keeps_refusal? (fun _ _ => .perform fun _ => rfl) _ _ _) fun outcome? => ?_
  cases outcome? with
  | some outcome => exact .pure _
  | none =>
    refine .bind (keeps_takeAccount (fun op _ => hstore op) p) fun account => ?_
    refine .bind (hstore .snapshot) fun mark => ?_
    refine .bind (.undoOnFailure (hstore (.revert mark)) ?_) fun frame? => ?_
    · exact keeps_enterFrame (fun op _ => hstore op) (fun _ _ _ => .perform fun _ => rfl) account p
    · cases frame? with
      | none => exact .pure _
      | some frame => exact .bind (.modify fun _ => rfl) fun _ => .pure _

/-- The watchdogs are the same. -/
def SamePair (m m' : Machine φ) : Prop :=
  m'.pair = m.pair

instance : IsPreorder (Machine φ) SamePair where
  refl _ := rfl
  trans _ _ _ h h' := Eq.trans h' h

/-- Setting up a primitive tells the watchdogs nothing. -/
theorem keeps_samePair_setUp (p : Primitive) : Keeps (φ := φ) SamePair (host.setUp p) := by
  intro m
  have hapart : SameApart m (host.setUp p m).2 := keeps_sameApart_setUp p m
  rw [SamePair, hapart]

/-! ### Single steps -/

/-- Every single step of a run keeps a relation. -/
structure Respects (host : Host) (allowed : Query → Prop) (R : Machine φ → Machine φ → Prop) :
    Prop where
  /-- Replies to requests that start no frame. -/
  reply : ∀ (nested : Primitive → Run φ Outcome) (q : Query), allowed q →
    (∀ p, q ≠ .dispatch p) → Keeps R (host.reply nested q)
  setDepth : ∀ (m : Machine φ) (depth : UInt64), R m { m with depth }
  enter : ∀ event, Keeps R (Run.enter event)
  flagThrow : Keeps R host.flagThrow
  setUp : ∀ p, Keeps R (host.setUp p)
  /-- The state that the setup of a frame marks lies between the machines before and after it. -/
  mark : ∀ {p : Primitive} {m m' : Machine φ} {mark : Nat} {frame : Frame},
    host.setUp p m = (.ok (.ready mark frame), m') →
      ∃ m₀ : Machine φ, mark = m₀.store.ledger.snapshot ∧ R m m₀ ∧ R m₀ m'
  rewind : ∀ {m₀ m : Machine φ}, R m₀ m → R m₀ (store (.revert m₀.store.ledger.snapshot) m).2
  setCode : ∀ a code, Keeps R (store (.setCode a code))

namespace Respects

omit [FaultModel φ] in
theorem keeps_tell {change : Word → Watchdog → Watchdog}
    (h : ∀ hash, host.env.txHash = some hash →
      ∀ m : Machine φ, R m { m with pair := m.pair.tell host.watchers (change hash) }) :
    Keeps R (host.tell change) := by
  unfold tell
  cases htx : host.env.txHash with
  | none => exact .pure ()
  | some hash => exact .modify (h hash htx)

/-- **For a relation between the stores** only the steps that reach the store matter. -/
theorem of_store (alone : ∀ {m m' : Machine φ}, m'.store = m.store → R m m')
    (read : ∀ {op : StoreOp}, op.IsRead →
      ∀ m : Machine φ, R m { m with store := (m.store.perform op).2 })
    (setState : ∀ a key value (m : Machine φ),
      R m { m with store := (m.store.perform (.setState a key value)).2 })
    (setCode : ∀ a code (m : Machine φ),
      R m { m with store := (m.store.perform (.setCode a code)).2 })
    (setUp : ∀ p, Keeps R (host.setUp p))
    (mark : ∀ {p : Primitive} {m m' : Machine φ} {mark : Nat} {frame : Frame},
      host.setUp p m = (.ok (.ready mark frame), m') →
        ∃ m₀ : Machine φ, mark = m₀.store.ledger.snapshot ∧ R m m₀ ∧ R m₀ m')
    (rewind : ∀ {m₀ m : Machine φ}, R m₀ m →
      R m₀ (store (.revert m₀.store.ledger.snapshot) m).2) :
    host.Respects Query.IsConfined R where
  reply nested q hq hd := by
    cases q with
    | dispatch p => exact (hd p rfl).elim
    | storeWord a key value =>
      refine .attempt (.bind (.store (read trivial)) fun _ => ?_)
      exact .bind (keeps_tell fun _ _ _ => alone rfl) fun _ => .store (setState a key value)
    | loadWord a key => exact .attempt (.store (read trivial))
    | trace line => exact keeps_tell fun _ _ _ => alone rfl
    | store op => exact .ask (read hq)
    | blockHash => exact .pure _
    | isCancelled | depth | remembered => exact .bind .get fun _ => .pure _
    | cancel | setDepth | setTracing | note | remember => exact .modify fun _ => alone rfl
  setDepth _ _ := alone rfl
  enter _ := .modify fun _ => alone rfl
  flagThrow := keeps_tell fun _ _ _ => alone rfl
  setUp := setUp
  mark := mark
  rewind := rewind
  setCode a code := .store (setCode a code)

/-- **For a relation that looks at neither the store, the depth nor the call log** only replies and
flags matter. -/
theorem of_apart (alone : ∀ (m : Machine φ) store depth log, R m { m with store, depth, log })
    (reply : ∀ (nested : Primitive → Run φ Outcome) (q : Query), allowed q →
      (∀ p, q ≠ .dispatch p) → Keeps R (host.reply nested q))
    (flagThrow : Keeps R host.flagThrow) : host.Respects allowed R where
  reply := reply
  setDepth m depth := alone m _ depth _
  enter _ := .modify fun m => alone m _ _ _
  flagThrow := flagThrow
  setUp p m := by
    have hapart : SameApart m (host.setUp p m).2 := keeps_sameApart_setUp p m
    rw [hapart]
    exact alone m _ m.depth _
  mark {p m m' mark frame} h := by
    have hapart : SameApart m m' := (keeps_sameApart_setUp p).rel_of_eq h
    -- the relation does not look at the store, so any ledger with this mark will do
    let l : Ledger := { journal := List.replicate mark (.nonce 0 0) }
    refine ⟨{ m with store := { m.store with ledger := l } }, ?_, alone m _ m.depth m.log, ?_⟩
    · exact List.length_replicate.symm
    · rw [hapart]
      exact alone _ _ m.depth _
  rewind {m₀ m} h := by
    have hback : Keeps R (store (.revert m₀.store.ledger.snapshot)) :=
      .store fun m => alone m _ m.depth m.log
    exact trans_of R h (hback m)
  setCode _ _ := .store fun m => alone m _ m.depth m.log

/-- **For a relation between the watchdogs** only the steps that tell them something matter. -/
theorem of_pair (alone : ∀ {m m' : Machine φ}, m'.pair = m.pair → R m m')
    (record : ∀ key current value, Keeps R (host.record key current value))
    (trace : ∀ line, Keeps R (host.trace line)) (flagThrow : Keeps R host.flagThrow) :
    host.Respects (fun _ => True) R := by
  refine .of_apart (fun _ _ _ _ => alone rfl) (fun nested q _ hd => ?_) flagThrow
  cases q with
  | dispatch p => exact (hd p rfl).elim
  | storeWord a key value =>
    refine .attempt (.bind (.store fun _ => alone rfl) fun current => ?_)
    exact .bind (record key current value) fun _ => .store fun _ => alone rfl
  | loadWord a key => exact .attempt (.store fun _ => alone rfl)
  | trace line => exact trace line
  | store op => exact .ask fun _ => alone rfl
  | blockHash => exact .pure _
  | isCancelled | depth | remembered => exact .bind .get fun _ => .pure _
  | cancel | setDepth | setTracing | note | remember => exact .modify fun _ => alone rfl

variable {nested : Primitive → Run φ Outcome} {m₀ m : Machine φ}

/-! ### Programs and frames -/

theorem guarded (h : host.Respects allowed R) {α : Type} {x : Run φ α} (hx : Keeps R x) :
    Keeps R (Run.guarded x) := by
  intro m
  have hm := hx m
  rw [guarded_apply]
  rcases hxm : x m with ⟨(failure | message | _) | a, m₁⟩
  all_goals rw [hxm] at hm
  · exact hm
  · -- a panic goes back to the mark first, and only if that works restores the depth
    have hr := h.rewind hm
    dsimp only
    rw [bind_apply]
    rcases hs : store (.revert m.store.ledger.snapshot) m₁ with ⟨stop | _, m₂⟩
    all_goals rw [hs] at hr
    · exact hr
    · exact trans_of R hr (h.setDepth m₂ m.depth)
  · exact hm
  · exact hm

/-- **Programs keep what their requests keep.** -/
theorem run (h : host.Respects allowed R) (hnested : ∀ p, Keeps R (nested p)) {α : Type}
    {program : Program α} (hprogram : program.Only allowed) :
    Keeps R (host.run nested program) := by
  induction program with
  | done value => exact .pure value
  | panic message => exact .stop _
  | ask query next ih =>
    obtain ⟨hquery, hnext⟩ := hprogram
    refine .bind ?_ fun reply => ih reply (hnext reply)
    by_cases hd : ∃ p, query = .dispatch p
    · -- a nested primitive, whose failure is a reply
      obtain ⟨p, rfl⟩ := hd
      exact .attempt (hnested p)
    · exact h.reply nested query hquery fun p hp => hd ⟨p, hp⟩
  | guarded body next ihBody ihNext =>
    obtain ⟨hbody, hnext⟩ := hprogram
    exact .bind (.attempt (h.guarded (.bind (ihBody hbody) fun _ => .ofExcept _)))
      fun answer => ihNext answer (hnext answer)

theorem runFrame (h : host.Respects allowed R) (hnested : ∀ p, Keeps R (nested p))
    (hprograms : host.interpreter.Only allowed) (frame : Frame) (input : Bytes) :
    Keeps R (host.runFrame nested frame input) := by
  unfold Host.runFrame
  cases host.precompiles[frame.codeAddress]? with
  | some precompile => exact .pure _
  | none =>
    dsimp only
    split
    · exact .pure _
    refine .bind .get fun before => ?_
    split
    · exact .pure _
    cases Checked.add before.depth 1 with
    | none => exact .pure _
    | some depth =>
      refine .bind (.modify fun m => h.setDepth m depth) fun _ => ?_
      exact .bind (h.run hnested (hprograms frame input)) (keeps_leave h.setDepth)

/-! ### Settling -/

omit [FaultModel φ] in
/-- What `x` keeps from `m₀` on, and what follows keeps, both keep together. -/
theorem keeps_after {α β : Type} {x : Run φ α} {f : α → Run φ β} (hx : R m₀ (x m).2)
    (hf : ∀ a, Keeps R (f a)) : R m₀ ((x >>= f) m).2 := by
  rw [bind_apply]
  rcases hxm : x m with ⟨stop | a, m₁⟩
  all_goals rw [hxm] at hx
  · exact hx
  · exact trans_of R hx (hf a m₁)

theorem undoOnFailure (h : host.Respects allowed R) {α : Type} {x : Run φ α} (hm : R m₀ m)
    (hx : Keeps R x) : R m₀ (Run.undoOnFailure m₀.store.ledger.snapshot x m).2 := by
  have hforward : R m₀ (Run.attempt x m).2 := trans_of R hm (hx.attempt m)
  rw [Run.undoOnFailure, bind_apply]
  rcases hxm : Run.attempt x m with ⟨stop | failure | a, m₁⟩
  all_goals rw [hxm] at hforward
  · exact hforward
  · exact keeps_after (h.rewind hforward) fun _ => .fail failure
  · exact hforward

theorem rollBack (h : host.Respects allowed R) (hm : R m₀ m) (frame : Frame) (failure : Failure) :
    R m₀ (Host.rollBack m₀.store.ledger.snapshot frame failure m).2 :=
  keeps_after (h.rewind hm) fun _ => h.enter _

theorem settleCall (h : host.Respects allowed R) (hm : R m₀ m) (frame : Frame)
    (ended : FrameEnd) :
    R m₀ (host.settleCall m₀.store.ledger.snapshot frame ended m).2 := by
  unfold Host.settleCall
  cases ended.result with
  | ok output => exact keeps_after (trans_of R hm (h.enter _ m)) fun _ => .pure _
  | error failure =>
    refine keeps_after (h.rollBack hm frame failure) fun _ => ?_
    split
    · exact .fail failure
    · exact .bind h.flagThrow fun _ => .pure _

theorem depositCode (h : host.Respects allowed R) (hm : R m₀ m) (a : Address)
    (ended : FrameEnd) :
    R m₀ (Host.depositCode m₀.store.ledger.snapshot a ended m).2 := by
  unfold Host.depositCode
  cases ended.result with
  | error failure => exact hm
  | ok code =>
    dsimp only
    split
    · exact hm
    cases Checked.sub ended.gasLeft (Checked.saturate (codeBytePrice * code.length)) with
    | none => exact hm
    | some left => exact keeps_after (h.undoOnFailure hm (h.setCode a code)) fun _ => .pure _

theorem closeCreation (h : host.Respects allowed R) (frame : Frame) (ended : FrameEnd)
    (failure? : Option Failure) (gasLeft : UInt64) :
    Keeps R (host.closeCreation frame ended failure? gasLeft) := by
  refine .bind (h.enter _) fun _ => ?_
  dsimp only
  split
  · exact .bind h.flagThrow fun _ => .pure _
  · exact .pure _

theorem concludeCreation (h : host.Respects allowed R) (hm : R m₀ m) (frame : Frame)
    (ended : FrameEnd) :
    R m₀ (host.concludeCreation m₀.store.ledger.snapshot frame ended m).2 := by
  have hdeposit := h.depositCode hm frame.account ended
  rw [Host.concludeCreation, bind_apply]
  rcases hd : Host.depositCode m₀.store.ledger.snapshot frame.account ended m with
    ⟨stop | ⟨failure?, left⟩, m₁⟩
  all_goals rw [hd] at hdeposit
  · exact hdeposit
  dsimp only
  split
  · exact keeps_after (h.rewind hdeposit) fun _ => h.closeCreation frame ended failure? 0
  · exact trans_of R hdeposit (h.closeCreation frame ended failure? left m₁)

theorem settleCreation (h : host.Respects allowed R) (hm : R m₀ m) (frame : Frame)
    (ended : FrameEnd) :
    R m₀ (host.settleCreation m₀.store.ledger.snapshot frame ended m).2 := by
  unfold Host.settleCreation
  cases ended.result with
  | ok output => exact h.concludeCreation hm frame ended
  | error failure =>
    dsimp only
    split
    · exact keeps_after (h.rollBack hm frame failure) fun _ => .fail failure
    · exact h.concludeCreation hm frame ended

theorem settle (h : host.Respects allowed R) (hm : R m₀ m) (p : Primitive) (frame : Frame)
    (ended : FrameEnd) :
    R m₀ (host.settle p m₀.store.ledger.snapshot frame ended m).2 := by
  cases p with
  | create => exact h.settleCreation hm frame ended
  | call | callCode | delegateCall => exact h.settleCall hm frame ended

/-! ### Primitives -/

theorem primitive (h : host.Respects allowed R) (hnested : ∀ p, Keeps R (nested p))
    (hprograms : host.interpreter.Only allowed) (p : Primitive) :
    Keeps R (host.primitive nested p) := by
  intro m
  have hsetUp := h.setUp p m
  rw [Host.primitive, bind_apply]
  rcases hs : host.setUp p m with ⟨stop | outcome | ⟨mark, frame⟩, m₁⟩
  all_goals rw [hs] at hsetUp
  · exact hsetUp
  · exact hsetUp
  · -- settling goes back to the marked machine at most, which comes after `m`
    obtain ⟨m₀, rfl, hbefore, hafter⟩ := h.mark hs
    have hframe := h.runFrame hnested hprograms frame frame.calldata m₁
    dsimp only
    rw [bind_apply]
    rcases hf : host.runFrame nested frame frame.calldata m₁ with ⟨stop | ended, m₂⟩
    all_goals rw [hf] at hframe
    · exact trans_of R hsetUp hframe
    · exact trans_of R hbefore (h.settle (trans_of R hafter hframe) p frame ended)

/-- **What every single step keeps, every primitive keeps**, whatever is nested in it and however
it ends. -/
theorem dispatchWithin (h : host.Respects allowed R) (hprograms : host.interpreter.Only allowed)
    (bound : Nat) (p : Primitive) : Keeps R (host.dispatchWithin bound p) := by
  -- what is nested in a primitive runs within a smaller bound
  induction bound generalizing p with
  | zero => exact .stop _
  | succ bound ih => exact h.primitive ih hprograms p

theorem dispatch (h : host.Respects allowed R) (hprograms : host.interpreter.Only allowed)
    (p : Primitive) : Keeps R (host.dispatch p) :=
  h.dispatchWithin hprograms _ p

end Respects

end Host

end CallWatch
