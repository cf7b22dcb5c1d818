import CallWatch.Proofs.Machine.Along
import CallWatch.Proofs.Machine.Hearing
import CallWatch.Proofs.Machine.Release

/-!
# What watchdogs are told

The watchdogs of a machine are told of the events of a run and of nothing else: whatever a
primitive does, the pair after it is the one before it informed of its history, event by event
(`Host.pair_dispatch`).  The same holds of programs (`Host.pair_run`) and of the root of a
transaction (`Host.pair_runRoot`).

They are told at once, and a rollback tells them nothing.  So the storage difference of an armed
watchdog is that of all writes that were tried, in a frame that was taken back or in one that was
not, and also of those that the store refused (`Host.storage_dispatch`).
-/

namespace CallWatch

open History Run

namespace Host

variable {φ : Type} {host : Host}

/-- The watchdogs were informed of the events. -/
def Told (host : Host) (es : List Event) (m m' : Machine φ) : Prop :=
  m'.pair = es.foldl host.inform m.pair

instance : Accumulates (Told (φ := φ) host) where
  refl _ := rfl
  trans {es es' m m' m''} h h' := by
    rw [Told, List.foldl_append, ← h]
    exact h'

theorem along_tell (e : Event) :
    Along (φ := φ) (Told host) (host.tell fun hash => Watchdog.hear hash e) (only e) := by
  intro m
  unfold tell
  show _ = host.inform m.pair e
  unfold inform
  cases host.env.txHash <;> rfl

theorem along_record (a : Address) (key current value : Word) :
    Along (φ := φ) (Told host) (host.record key current value)
      (only (.write a key current value)) := by
  have hrecord : host.record (φ := φ) key current value =
      host.tell fun hash => Watchdog.hear hash (.write a key current value) := by
    unfold record
    congr 1
    funext hash dog
    exact (dog.hear_write hash a key current value).symm
  rw [hrecord]
  exact along_tell _

/-- The watchdogs are told nothing of an event that they do not hear of. -/
theorem told_of_unheard {e : Event} (h : ∀ s : Session, s.hear e = s) {m m' : Machine φ}
    (hpair : m'.pair = m.pair) : Told host [e] m m' :=
  hpair.trans (inform_of_unheard m.pair h).symm

variable [FaultModel φ]

theorem told_setUp (p : Primitive) : Along (φ := φ) (Told host) (host.setUp p)
    (host.setUpHistory p) := by
  intro m
  have hpair : (host.setUp p m).2.pair = m.pair := keeps_samePair_setUp p m
  -- entering a creation is the only event of a setup
  have hentering (account : Address) : Told host (p.entering account) m (host.setUp p m).2 := by
    cases p with
    | create => exact told_of_unheard (fun _ => rfl) hpair
    | call | callCode | delegateCall => exact hpair
  have hnothing : Told host [] m (host.setUp p m).2 := hpair
  unfold setUpHistory andThen
  rcases host.refusal? p.payer p.gas p.value? m with ⟨stop | outcome?, m₁⟩
  · exact hnothing
  cases outcome? with
  | some outcome => exact hnothing
  | none =>
    dsimp only [nothing]
    rcases takeAccount p m₁ with ⟨stop | account, m₂⟩
    · exact hnothing
    · exact hentering account

/-- **Every step of a run tells the watchdogs its event.** -/
theorem follows_told : host.Follows (Told (φ := φ) host) where
  reply nested events q hd := by
    have hstore (op : StoreOp) : Keeps (φ := φ) (Told host []) (store op) := .store fun _ => rfl
    cases q with
    | dispatch p => exact (hd p rfl).elim
    | storeWord a key value =>
      refine .attempt (.bind_of_keeps (hstore _) fun current => ?_)
      exact .keeps_bind (along_record a key current value) fun _ => hstore _
    | loadWord a key => exact .attempt (.of_keeps (hstore _))
    | trace line => exact along_tell (.trace line)
    | store op => exact fun m => told_of_unheard (fun _ => rfl) rfl
    | blockHash => exact .pure _
    | isCancelled | depth | remembered => exact .of_keeps (.bind .get fun _ => .pure _)
    | cancel | setDepth | setTracing | note | remember => exact .of_keeps (.modify fun _ => rfl)
  setDepth _ _ := rfl
  enter _ := .modify fun _ => rfl
  flagThrow := along_tell .throw
  setUp := told_setUp
  rewind mark m := by
    rw [store_apply]
    exact told_of_unheard (fun _ => rfl) rfl
  setCode _ _ := .store fun _ => rfl

/-- **The watchdogs are told the history of a primitive**, all of it and nothing else. -/
theorem pair_dispatch (host : Host) (p : Primitive) (m : Machine φ) :
    (host.dispatch p m).2.pair = (host.history p m).foldl host.inform m.pair :=
  follows_told.dispatch p m

/-- The watchdogs are told the history of a program. -/
theorem pair_run (host : Host) {α : Type} (program : Program α) (m : Machine φ) :
    (host.run host.dispatch program m).2.pair =
      (host.runHistory host.dispatch host.history program m).foldl host.inform m.pair :=
  follows_told.run follows_told.dispatch program m

/-- The watchdogs are told the history of the root of a transaction. -/
theorem pair_runRoot (host : Host) (tx : Transaction) (m : Machine φ) :
    (host.runRoot tx m).2.pair = (host.rootHistory tx m).foldl host.inform m.pair :=
  follows_told.runRoot tx (fun _ _ => .store fun _ => rfl) m

/-- **The storage difference of an armed watchdog is that of all writes that were tried.**  For
each location, `before` has what the first of them found there, and `after` has what the last of
them was to leave, unless these are the same.  It makes no difference whether the frame of a write
was taken back, or a frame around it, or whether the store refused the write. -/
theorem storage_dispatch {kind : WatchKind} (hkind : kind ∈ host.watchers) {m : Machine φ}
    {session : Session} (hsession : (m.pair.get kind).session = some session)
    (hbound : host.env.txHash = some session.txHash) (p : Primitive) :
    ∃ session', ((host.dispatch p m).2.pair.get kind).session = some session' ∧
      ∀ key : Word,
        session'.storage.before[key]? =
          (session.storage.before[key]? <|>
            ((host.history p m).filterMap (Event.writeAt? key)).head?.map (·.1)) ∧
        session'.storage.after[key]? =
          match ((host.history p m).filterMap (Event.writeAt? key)).getLast? with
          | none => session.storage.after[key]?
          | some (_, value) =>
            if session'.storage.before[key]? = some value then none else some value := by
  obtain ⟨n, hheard⟩ := session_informAll_of_mem hkind hsession hbound (host.history p m)
  rw [pair_dispatch]
  refine ⟨_, hheard, fun key => ⟨?_, ?_⟩⟩
  · exact Session.before_hearAll session _ key
  · exact Session.after_hearAll session _ key

/-- A program that fails. -/
def failing : Program FrameEnd :=
  .done { result := .error .reverted, gasLeft := 0 }

/-- A program that ends well. -/
def ending : Program FrameEnd :=
  .done { result := .ok [], gasLeft := 0 }

/-- A program of account 8 that tries to write a slot, and goes on whether or not it could. -/
def writing (next : Program FrameEnd) : Program FrameEnd :=
  .ask (.storeWord 8 1 7) fun _ => next

/-- A host on which account 9 calls account 8, which runs a program of its own. -/
def calling (inner : Program FrameEnd) : Host where
  env := { txHash := some 7 }
  rules := ChainConfig.rules (.allForksActive 1) 0
  interpreter := fun frame _ =>
    if frame.account = 9 then .ask (.dispatch (.call 9 8 [] 10 0)) fun _ => ending else inner

/-- A machine with code in both accounts, whose general watchdog is armed. -/
def armedForSeven : Machine NoFaults where
  store := { ledger := (Ledger.seed {} 9 { code := [1] }).seed 8 { code := [2] }, faults := {} }
  pair := (WatchPair.enabled (.dispatcher [])).set .general {
    kind := .general, session := some { txHash := 7, target := 9, balanceBefore := 0 } }

/-- The same machine over a store that refuses every write to a slot. -/
def armedRefusing : Machine FaultPlan where
  store := {
    ledger := armedForSeven.store.ledger
    faults := { faults := [{ method := .setState }] } }
  pair := armedForSeven.pair

/-- What a call of account 9 leaves in the slot, and what the storage difference says it left. -/
def leftAndReported (inner : Program FrameEnd) (m : Machine φ) : Word × Option Word :=
  let (_, m) := (calling inner).dispatch (.call 1 9 [] 100 0) m
  ((m.store.ledger.accounts.get 8).storage.getD 1 0,
    (m.pair.get .general).session.bind fun session => session.storage.after[(1 : Word)]?)

/-- The slot holds zero again, and the storage difference says seven. -/
theorem storage_dispatch_failingWrite :
    let ended := (calling (writing failing)).dispatch (.call 1 9 [] 100 0) armedForSeven
    (ended.2.store.ledger.accounts.get 8).storage.getD 1 0 = 0 ∧
      ∃ session, (ended.2.pair.get .general).session = some session ∧
        session.storage.before[(1 : Word)]? = some 0 ∧
        session.storage.after[(1 : Word)]? = some 7 := by
  have htried : ((calling (writing failing)).history (.call 1 9 [] 100 0)
      armedForSeven).filterMap (Event.writeAt? 1) = [(0, 7)] := by
    decide +kernel
  refine ⟨by decide +kernel, ?_⟩
  obtain ⟨session, hsession, hstorage⟩ := @storage_dispatch NoFaults
    (calling (writing failing)) _ .general (by decide) armedForSeven _ rfl rfl
    (.call 1 9 [] 100 0)
  obtain ⟨hbefore, hafter⟩ := hstorage 1
  rw [htried] at hbefore hafter
  refine ⟨session, hsession, hbefore, ?_⟩
  rw [hafter, hbefore]
  rfl

/-- A write that is taken back with its frame, and one that the store refuses, leave the slot as it
is when they are left out, and are reported all the same. -/
theorem reported_of_undone :
    (leftAndReported (writing failing) armedForSeven = (0, some 7) ∧
      leftAndReported failing armedForSeven = (0, none)) ∧
    (leftAndReported (writing ending) armedRefusing = (0, some 7) ∧
      leftAndReported ending armedRefusing = (0, none)) := by
  decide +kernel

end Host

end CallWatch
