import CallWatch.Proofs.Ledger.Storage
import CallWatch.Proofs.Machine.Rollback
import CallWatch.Proofs.Machine.Telling

/-!
# The net change of storage

If nothing but storage writes reached the storage of an account in a run, and no frame was taken
back, then the writes to each slot lead from what it held at the start to what it holds at the end
(`Leads`): the first write found the one there, the last write left the other
(`Host.follows_tracks`).  So the storage difference of a watchdog that was armed just before is the
true net change of the account (`Host.storageDiff_run`).
-/

namespace CallWatch

open History Run

/-- Whether an event can be part of a run in which only storage writes reach the storage of `a`,
and in which they reach no other. -/
def Event.IsPlain (a : Address) : Event → Prop
  | .write account _ _ _ => account = a
  | .trace _ | .throw => True
  | .rewind => False
  | .create account => account ≠ a
  | .direct op => op.SparesStorage a

/-- The writes to a slot, of each of which we have what it found and what it left, lead from one
value to another. -/
structure Leads (writes : List (Word × Word)) (first last : Word) : Prop where
  starts : ∀ w, writes.head? = some w → w.1 = first
  ends : last = (writes.getLast?.map (·.2)).getD first

theorem Leads.nil (value : Word) : Leads [] value value :=
  ⟨fun _ h => (Option.some_ne_none _ h.symm).elim, rfl⟩

theorem Leads.append {writes writes' : List (Word × Word)} {first middle last : Word}
    (h : Leads writes first middle) (h' : Leads writes' middle last) :
    Leads (writes ++ writes') first last where
  starts w hw := by
    cases writes with
    | nil =>
      -- nothing was written before, so the value in the middle is still the first one
      have hmiddle : middle = first := h.ends
      rw [← hmiddle]
      exact h'.starts w hw
    | cons => exact h.starts w hw
  ends := by
    rw [h'.ends, List.getLast?_append]
    cases writes'.getLast? with
    | none =>
      rw [Option.none_or]
      exact h.ends
    | some w => rfl

/-- There was a write to a slot if one is found among the events. -/
theorem Event.exists_write_iff {a : Address} {es : List Event} (hplain : ∀ e ∈ es, e.IsPlain a)
    (key : Word) :
    (∃ current value, Event.write a key current value ∈ es) ↔
      es.filterMap (writeAt? key) ≠ [] := by
  constructor
  · rintro ⟨current, value, hmem⟩
    refine List.ne_nil_of_mem (a := (current, value)) ?_
    exact List.mem_filterMap.2 ⟨_, hmem, if_pos rfl⟩
  · intro h
    obtain ⟨w, hw⟩ := List.exists_mem_of_ne_nil _ h
    obtain ⟨e, hmem, he⟩ := List.mem_filterMap.1 hw
    cases e with
    | write account key' current value =>
      obtain rfl : account = a := hplain _ hmem
      by_cases hkey : key' = key
      · subst hkey
        exact ⟨current, value, hmem⟩
      · rw [writeAt?, if_neg hkey] at he
        cases he
    | trace | throw | rewind | create | direct => cases he

/-- **A session that has recorded nothing gets the net change** of a slot whose writes lead from
one value to another. -/
theorem Session.storage_hearAll_of_leads {s : Session} (hfresh : s.storage = {})
    {es : List Event} {key first last : Word} {n : Nat}
    (h : Leads (es.filterMap (Event.writeAt? key)) first last) :
    (key ∈ (s.hearAll (n + 1) es).storage.before ↔ es.filterMap (Event.writeAt? key) ≠ []) ∧
      (key ∈ (s.hearAll (n + 1) es).storage.before →
        (s.hearAll (n + 1) es).storage.before[key]? = some first) ∧
      (s.hearAll (n + 1) es).storage.after[key]? = if last = first then none else some last := by
  have hbefore := s.before_hearAll (n := n) es key
  have hafter := s.after_hearAll (n := n) es key
  have hends := h.ends
  simp only [hfresh, Std.ExtTreeMap.getElem?_empty] at hbefore hafter
  rw [Std.ExtTreeMap.mem_iff_isSome_getElem?, hafter, hbefore]
  rcases hwrites : es.filterMap (Event.writeAt? key) with _ | ⟨w, writes⟩
  · -- a slot that was not written holds what it held
    rw [hwrites] at hends
    have hsame : last = first := hends
    simp [hsame]
  · have hstarts : w.1 = first := h.starts w (by rw [hwrites]; rfl)
    obtain ⟨w', hlast⟩ := Option.ne_none_iff_exists'.1
      (mt List.getLast?_eq_none_iff.1 (List.cons_ne_nil w writes))
    rw [hwrites, hlast] at hends
    have hends : last = w'.2 := hends
    simp only [hlast, List.head?_cons, Option.map_some, hstarts, ← hends]
    simp [eq_comm]

/-- The hooks of an environment move value, and never touch storage. -/
structure Environment.SparesStorage (env : Environment) : Prop extends env.IsTame where
  storage : ∀ sender receiver amount, (env.transfer sender receiver amount).SparesStorage

/-- The hooks of an environment that sets none spare storage. -/
theorem Environment.sparesStorage_of_default {env : Environment} (hcan : env.canTransfer = .covers)
    (htransfer : env.transfer = .transfer) : env.SparesStorage where
  toIsTame := Environment.isTame_of_default hcan htransfer
  storage := by rw [htransfer]; exact Procedure.sparesStorage_transfer

namespace Host

variable {host : Host} {a : Address} {m m' : Machine NoFaults}

/-- In a run of plain events, the writes to each slot of `a` lead from what it held to what it
holds. -/
def Tracks (a : Address) (es : List Event) (m m' : Machine NoFaults) : Prop :=
  (∀ e ∈ es, e.IsPlain a) → ∀ key,
    Leads (es.filterMap (Event.writeAt? key)) (m.store.ledger.slot a key)
      (m'.store.ledger.slot a key)

instance : Accumulates (Tracks a) where
  refl _ _ _ := .nil _
  trans {es es' m m' m''} h h' hplain key := by
    rw [List.filterMap_append]
    have hbefore := h (fun e he => hplain e (List.mem_append_left _ he)) key
    have hafter := h' (fun e he => hplain e (List.mem_append_right _ he)) key
    exact hbefore.append hafter

/-- Without writes, the slots have to read as before. -/
theorem tracks_of_sameStorage {es : List Event}
    (hwrites : ∀ key, es.filterMap (Event.writeAt? key) = [])
    (h : (∀ e ∈ es, e.IsPlain a) → m.store.ledger.SameStorage a m'.store.ledger) :
    Tracks a es m m' := by
  intro hplain key
  rw [hwrites key, h hplain key]
  exact .nil _

/-- Steps that leave the ledger alone are no events. -/
theorem tracks_nil (h : m'.store.ledger = m.store.ledger) : Tracks a [] m m' :=
  tracks_of_sameStorage (fun _ => rfl) fun _ => by rw [h]; exact .refl _

theorem keeps_tracks_store {op : StoreOp} (hop : op.SparesStorage a) :
    Keeps (Tracks a []) (store (φ := NoFaults) op) :=
  .store fun m => tracks_of_sameStorage (fun _ => rfl) fun _ => m.store.sameStorage_perform hop

/-! ### A storage write -/

/-- **A storage write leads from what the slot held to what it was to hold.** -/
theorem tracks_storeWord (host : Host) (account : Address) (key value : Word)
    (m : Machine NoFaults) :
    Tracks a [.write account key (m.store.ledger.slot account key) value] m
      (host.storeWord account key value m).2 := by
  intro hplain key'
  obtain rfl : account = a := hplain _ (List.mem_singleton_self _)
  rw [ledger_storeWord, Ledger.slot_setState]
  by_cases hkey : key = key'
  · subst hkey
    simp only [List.filterMap_cons, Event.writeAt?, if_true, List.filterMap_nil]
    constructor
    · intro w hw
      obtain rfl := Option.some.inj hw
      rfl
    · rfl
  · simp only [List.filterMap_cons, Event.writeAt?, if_neg hkey, List.filterMap_nil]
    exact .nil _

/-! ### Setting up -/

/-- The machines before and after have the same storage at `a`. -/
def SameStorage (a : Address) (m m' : Machine NoFaults) : Prop :=
  m.store.ledger.SameStorage a m'.store.ledger

instance : IsPreorder (Machine NoFaults) (SameStorage a) where
  refl _ := .refl _
  trans _ _ _ h h' := h.trans h'

theorem keeps_sameStorage_store {op : StoreOp} (hop : op.SparesStorage a) :
    Keeps (SameStorage a) (store (φ := NoFaults) op) :=
  .store fun m => m.store.sameStorage_perform hop

theorem keeps_sameStorage_ensureTarget (host : Host) (target : Address) (value : Word) :
    Keeps (SameStorage a) (host.ensureTarget (φ := NoFaults) target value) :=
  keeps_ensureTarget_of_missing host value (keeps_sameStorage_store trivial) fun _ hmissing =>
    Ledger.sameStorage_createAccount_of_missing hmissing

theorem keeps_sameStorage_enterFrame (hooks : host.env.SparesStorage) {account : Address}
    {p : Primitive} (hp : ∀ e ∈ p.entering account, e.IsPlain a) :
    Keeps (SameStorage a) (host.enterFrame (φ := NoFaults) account p) := by
  have htransfer (sender receiver : Address) (amount : Word) :
      Keeps (SameStorage a) (perform (φ := NoFaults) (host.env.transfer sender receiver amount)) :=
    .perform fun m => hooks.storage sender receiver amount m.store a
  cases p with
  | call caller target input gas value =>
    refine .bind (keeps_sameStorage_ensureTarget host target value) fun isThere => ?_
    cases isThere with
    | false => exact .pure _
    | true =>
      refine .bind (htransfer _ _ _) fun _ => ?_
      exact .bind (keeps_sameStorage_store trivial) fun _ => .bind .get fun _ => .pure _
  | callCode | delegateCall =>
    exact .bind (keeps_sameStorage_store trivial) fun _ => .bind .get fun _ => .pure _
  | create caller code gas value =>
    have hcreate : account ≠ a := hp (.create account) (List.mem_singleton_self _)
    refine .bind (keeps_sameStorage_store hcreate) fun _ => ?_
    dsimp only
    split
    · refine .bind (keeps_sameStorage_store trivial) fun _ => ?_
      exact .bind (htransfer _ _ _) fun _ => .bind .get fun _ => .pure _
    · exact .bind (htransfer _ _ _) fun _ => .bind .get fun _ => .pure _

/-- The setup of a frame leaves storage alone, and so does going back if it fails. -/
theorem tracks_prepare (hooks : host.env.SparesStorage) (account : Address) (p : Primitive) :
    Along (Tracks a) (host.prepare account p) fun _ => p.entering account := by
  intro m
  refine tracks_of_sameStorage (fun key => ?_) fun hplain => ?_
  · cases p <;> rfl
  have hentered := keeps_sameStorage_enterFrame hooks hplain m
  have hforward := keeps_journaled_enterFrame hooks.toIsTame account p m
  rw [prepare, bind_of_ok (snapshot_apply m), bind_apply]
  rcases undoOnFailure_cases FaultModel.noFaults_sparesReverts hforward with
    ⟨hsame, -⟩ | ⟨failure, -, hundone⟩
  · rw [hsame]
    rcases he : host.enterFrame account p m with ⟨stop | _ | frame, m₁⟩
    all_goals
      rw [he] at hentered
      exact hentered
  · rw [hundone]
    exact .refl _

theorem tracks_setUp (hooks : host.env.SparesStorage) (p : Primitive) :
    Along (Tracks a) (host.setUp p) (host.setUpHistory p) := by
  have hcan (b : Address) (amount : Word) :
      Keeps (Tracks a []) (perform (φ := NoFaults) (host.env.canTransfer b amount)) :=
    .perform fun m => tracks_nil (hooks.canTransfer b amount m.store)
  have htake : Keeps (Tracks a []) (takeAccount (φ := NoFaults) p) := by
    cases p with
    | call | callCode | delegateCall => exact .pure _
    | create caller code gas value =>
      refine .bind (keeps_tracks_store trivial) fun nonce => ?_
      cases Checked.add nonce 1 with
      | none => exact .fail _
      | some next => exact .bind (keeps_tracks_store trivial) fun _ => .pure _
  refine .bind_of_keeps (keeps_refusal? hcan _ _ _) fun outcome? => ?_
  cases outcome? with
  | some outcome => exact .pure _
  | none => exact .bind_of_keeps htake fun account => tracks_prepare hooks account p

/-! ### The run -/

/-- **In every step of a run the writes lead from what was to what is**, as long as the events are
plain. -/
theorem follows_tracks (hooks : host.env.SparesStorage) : host.Follows (Tracks a) where
  reply nested events q hd := by
    cases q with
    | dispatch p => exact (hd p rfl).elim
    | storeWord account key value =>
      exact .attempt fun m => tracks_storeWord host account key value m
    | loadWord account key => exact .attempt (.of_keeps (keeps_tracks_store trivial))
    | trace line =>
      intro m
      refine tracks_of_sameStorage (fun _ => rfl) fun _ => ?_
      show m.store.ledger.SameStorage a (host.trace line m).2.store.ledger
      unfold Host.trace tell
      cases host.env.txHash <;> exact .refl _
    | store op =>
      intro m
      refine tracks_of_sameStorage (fun _ => rfl) fun hplain => ?_
      exact m.store.sameStorage_perform (hplain (.direct op) (List.mem_singleton_self _))
    | blockHash => exact .pure _
    | isCancelled | depth | remembered => exact .of_keeps (.bind .get fun _ => .pure _)
    | cancel | setDepth | setTracing | note | remember =>
      exact .of_keeps (.modify fun _ => tracks_nil rfl)
  setDepth _ _ := tracks_nil rfl
  enter _ := .modify fun _ => tracks_nil rfl
  flagThrow m := by
    refine tracks_of_sameStorage (fun _ => rfl) fun _ => ?_
    rw [show (host.flagThrow m).2.store.ledger = _ from keeps_sameLedger_flagThrow m]
    exact .refl _
  setUp := tracks_setUp hooks
  rewind mark m hplain := (hplain .rewind (List.mem_singleton_self _)).elim
  setCode _ _ := keeps_tracks_store trivial

/-- **The storage difference is the true net change.**  A watchdog is armed when a program starts,
and has recorded nothing yet.  If no frame of the run is taken back, all storage writes reach the
account `a` and nothing else does, then `before` has what each slot that was written held at the
start, and `after` has what each slot holds at the end, if that is not the same. -/
theorem storageDiff_run (hooks : host.env.SparesStorage) {kind : WatchKind}
    (hkind : kind ∈ host.watchers) {session : Session}
    (hsession : (m.pair.get kind).session = some session)
    (hbound : host.env.txHash = some session.txHash) (hfresh : session.storage = {}) {α : Type}
    (program : Program α)
    (hplain : ∀ e ∈ host.runHistory host.dispatch host.history program m, e.IsPlain a) :
    ∃ session', ((host.run host.dispatch program m).2.pair.get kind).session = some session' ∧
      ∀ key : Word,
        let first := m.store.ledger.slot a key
        let last := (host.run host.dispatch program m).2.store.ledger.slot a key
        (key ∈ session'.storage.before ↔
          ∃ current value,
            .write a key current value ∈ host.runHistory host.dispatch host.history program m) ∧
        (key ∈ session'.storage.before → session'.storage.before[key]? = some first) ∧
        session'.storage.after[key]? = if last = first then none else some last := by
  have htracks := (follows_tracks hooks).run (follows_tracks hooks).dispatch program m hplain
  obtain ⟨n, hheard⟩ := session_informAll_of_mem hkind hsession hbound
    (host.runHistory host.dispatch host.history program m)
  rw [← pair_run] at hheard
  refine ⟨_, hheard, fun key => ?_⟩
  rw [Event.exists_write_iff hplain key]
  exact Session.storage_hearAll_of_leads hfresh (htracks key)

/-- A host on which account 9 writes a slot, once in its own code and once in that of account 8. -/
def ofBorrowing : Host where
  env := { txHash := some 7 }
  rules := ChainConfig.rules (.allForksActive 1) 0
  interpreter := fun frame _ =>
    let ended : Program FrameEnd := .done { result := .ok [], gasLeft := frame.gasRemaining }
    if frame.codeAddress = 9 then
      .ask (.storeWord frame.account 1 5) fun _ =>
        .ask (.dispatch (.callCode 9 8 [] 10 0)) fun _ => ended
    else .ask (.storeWord frame.account 1 7) fun _ => ended

/-- A program that calls account 9. -/
def callingNine : Program (Except Failure Outcome) :=
  .request (.dispatch (.call 1 9 [] 100 0))

theorem storageDiff_run_borrowing :
    (∀ e ∈ ofBorrowing.runHistory ofBorrowing.dispatch ofBorrowing.history callingNine
        armedForSeven, e.IsPlain 9) ∧
      ∃ session, ((ofBorrowing.run ofBorrowing.dispatch callingNine armedForSeven).2.pair.get
          .general).session = some session ∧
        session.storage.before[(1 : Word)]? = some 0 ∧
        session.storage.after[(1 : Word)]? = some 7 := by
  have hhistory : ofBorrowing.runHistory ofBorrowing.dispatch ofBorrowing.history callingNine
      armedForSeven = [.write 9 1 0 5, .write 9 1 5 7] := by
    decide +kernel
  have hplain : ∀ e ∈ ofBorrowing.runHistory ofBorrowing.dispatch ofBorrowing.history callingNine
      armedForSeven, e.IsPlain 9 := by
    rw [hhistory]
    simp [Event.IsPlain]
  have hlast : (ofBorrowing.run ofBorrowing.dispatch callingNine
      armedForSeven).2.store.ledger.slot 9 1 = 7 := by
    decide +kernel
  have hfirst : armedForSeven.store.ledger.slot 9 1 = 0 := by decide +kernel
  obtain ⟨session, hsession, hstorage⟩ := @storageDiff_run ofBorrowing 9 armedForSeven
    (Environment.sparesStorage_of_default rfl rfl) .general (by decide) _ rfl rfl rfl _ callingNine
    hplain
  obtain ⟨hkeys, hbefore, hafter⟩ := hstorage 1
  refine ⟨hplain, session, hsession, ?_, ?_⟩
  · rw [← hfirst]
    refine hbefore (hkeys.2 ⟨0, 5, ?_⟩)
    rw [hhistory]
    exact List.mem_cons_self
  · rw [hafter, hlast, hfirst]
    decide

end Host

end CallWatch
