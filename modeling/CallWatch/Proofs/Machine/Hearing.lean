import CallWatch.Machine.History
import CallWatch.Proofs.Watch.Session
import CallWatch.Proofs.Watch.StorageDiff
import Mathlib.Data.List.Induction
import Mathlib.Logic.Function.Iterate

/-!
# What watchdogs hear

A watchdog that is armed for the transaction of a machine hears of three kinds of events: writes,
trace lines and failing frames.  `Session.hear` is what one event does to a session, and
`Host.inform` what it does to a pair of watchdogs: each watchdog hears of it as often as it is in
the list of watchers (`Host.session_informAll`).

After a list of events, the trace of a session has grown by the trace lines in their order
(`Session.trace_hearAll`).  Its storage difference has, for each location, what the first write to
it found there (`Session.before_hearAll`), and what the last one left, unless that is the same
(`Session.after_hearAll`), however often the session heard of each.
-/

namespace CallWatch

/-- What a session makes of an event. -/
def Session.hear (s : Session) : Event → Session
  | .write _ key current value => { s with storage := s.storage.write key current value }
  | .trace line => { s with trace := s.trace.push line }
  | .throw => { s with hasThrow := true }
  | .rewind | .create _ | .direct _ => s

/-- What a watchdog makes of an event of a transaction. -/
def Watchdog.hear (hash : Word) (e : Event) (dog : Watchdog) : Watchdog :=
  dog.note hash (·.hear e)

/-- What the watchdogs of a host make of an event. -/
def Host.inform (host : Host) (pair : WatchPair) (e : Event) : WatchPair :=
  match host.env.txHash with
  | none => pair
  | some hash => pair.tell host.watchers (Watchdog.hear hash e)

/-! ### Telling a list of watchdogs -/

namespace WatchPair

theorem set_get (pair : WatchPair) (kind : WatchKind) : pair.set kind (pair.get kind) = pair := by
  cases kind <;> rfl

/-- Telling watchdogs nothing changes nothing. -/
theorem tell_id (pair : WatchPair) (kinds : List WatchKind) : pair.tell kinds id = pair := by
  induction kinds with
  | nil => rfl
  | cons kind kinds ih =>
    rw [tell, List.foldl_cons, id, set_get]
    exact ih

/-- **Each watchdog is told as often as it is in the list.** -/
theorem get_tell (pair : WatchPair) (kinds : List WatchKind) (change : Watchdog → Watchdog)
    (kind : WatchKind) :
    (pair.tell kinds change).get kind = change^[kinds.count kind] (pair.get kind) := by
  induction kinds generalizing pair with
  | nil => rfl
  | cons kind' kinds ih =>
    have hrest := ih (pair.set kind' (change (pair.get kind')))
    rw [get_set] at hrest
    rw [tell, List.foldl_cons]
    refine hrest.trans ?_
    by_cases hkind : kind' = kind
    · subst hkind
      rw [if_pos rfl, List.count_cons_self, Function.iterate_succ_apply]
    · rw [if_neg hkind, List.count_cons_of_ne hkind]

theorem outbox_tell (pair : WatchPair) (kinds : List WatchKind) (change : Watchdog → Watchdog) :
    (pair.tell kinds change).outbox = pair.outbox := by
  induction kinds generalizing pair with
  | nil => rfl
  | cons kind kinds ih =>
    rw [tell, List.foldl_cons]
    refine (ih _).trans ?_
    cases kind <;> rfl

end WatchPair

/-! ### One event -/

namespace Session

@[simp]
theorem txHash_hear (s : Session) (e : Event) : (s.hear e).txHash = s.txHash := by
  cases e <;> rfl

theorem storage_hear_write (s : Session) (account : Address) (key current value : Word) :
    (s.hear (.write account key current value)).storage = s.storage.write key current value :=
  rfl

/-- An event that is heard several times leaves the storage difference as hearing it once. -/
theorem storage_iterate_hear (s : Session) (e : Event) (n : Nat) :
    ((·.hear e)^[n + 1] s).storage = (s.hear e).storage := by
  induction n with
  | zero => rfl
  | succ n ih =>
    rw [Function.iterate_succ_apply']
    cases e with
    | write account key current value =>
      rw [storage_hear_write, ih]
      exact StorageDiff.write_write _ _ _ _
    | trace | throw | rewind | create | direct => exact ih

end Session

/-- A write reaches a watchdog as two records. -/
theorem Watchdog.hear_write (dog : Watchdog) (hash : Word) (account : Address)
    (key current value : Word) :
    dog.hear hash (.write account key current value) =
      (dog.recordStorage hash key current).recordStorage hash key value := by
  simp only [hear, recordStorage, note, Option.map_map]
  congr 1
  congr 1
  funext s
  by_cases hhash : s.txHash = hash
  · simp only [Function.comp_apply, if_pos hhash]
    rfl
  · simp only [Function.comp_apply, if_neg hhash]

/-- A watchdog that is armed for the transaction hears the event. -/
theorem Watchdog.session_iterate_hear {dog : Watchdog} {s : Session} (h : dog.session = some s)
    (e : Event) (n : Nat) :
    ((Watchdog.hear s.txHash e)^[n] dog).session = some ((·.hear e)^[n] s) := by
  induction n generalizing dog s with
  | zero => exact h
  | succ n ih =>
    have hheard : (dog.hear s.txHash e).session = some (s.hear e) := by
      rw [hear, note, h, Option.map_some, if_pos rfl]
    have hrest := ih hheard
    rwa [Session.txHash_hear] at hrest

/-! ### Many events -/

namespace Session

/-- What a session makes of a list of events, each of which it hears `n` times. -/
def hearAll (n : Nat) (s : Session) (es : List Event) : Session :=
  es.foldl (fun s e => (·.hear e)^[n] s) s

variable {n : Nat}

theorem hearAll_cons (s : Session) (e : Event) (es : List Event) :
    s.hearAll n (e :: es) = ((·.hear e)^[n] s).hearAll n es :=
  rfl

theorem hearAll_concat (s : Session) (e : Event) (es : List Event) :
    s.hearAll n (es ++ [e]) = (·.hear e)^[n] (s.hearAll n es) := by
  rw [hearAll, List.foldl_append]
  rfl

/-- What no event changes in a session, no list of events does. -/
theorem hearAll_induction {γ : Type} {view : Session → γ} (h : ∀ s e, view (s.hear e) = view s)
    (s : Session) (es : List Event) : view (s.hearAll n es) = view s := by
  have honce (e : Event) (k : Nat) (s : Session) : view ((·.hear e)^[k] s) = view s := by
    induction k generalizing s with
    | zero => rfl
    | succ k ih => exact (ih _).trans (h s e)
  induction es generalizing s with
  | nil => rfl
  | cons e es ih => exact (ih _).trans (honce e n s)

/-- **The trace grows by the trace lines**, in their order. -/
theorem trace_hearAll (s : Session) (es : List Event) :
    (s.hearAll 1 es).trace.toList = s.trace.toList ++ es.filterMap Event.line? := by
  induction es generalizing s with
  | nil => exact (List.append_nil _).symm
  | cons e es ih =>
    rw [hearAll_cons, ih]
    cases e with
    | trace line =>
      show (s.trace.push line).toList ++ _ = _ ++ line :: _
      rw [Array.toList_push, List.append_assoc]
      rfl
    | write | throw | rewind | create | direct => rfl

/-- **One flagged failure raises the flag**, and nothing takes it down again. -/
theorem hasThrow_hearAll (s : Session) (es : List Event) :
    (s.hearAll 1 es).hasThrow = true ↔ s.hasThrow = true ∨ Event.throw ∈ es := by
  induction es generalizing s with
  | nil => exact (or_iff_left List.not_mem_nil).symm
  | cons e es ih =>
    rw [hearAll_cons, ih, List.mem_cons]
    cases e with
    | throw => exact iff_of_true (.inl rfl) (.inr (.inl rfl))
    | write | trace | rewind | create | direct => exact or_congr_right (by simp)

/-- **`before` holds what the first write to a location found there.** -/
theorem before_hearAll (s : Session) (es : List Event) (key : Word) :
    (s.hearAll (n + 1) es).storage.before[key]? =
      (s.storage.before[key]? <|> (es.filterMap (Event.writeAt? key)).head?.map (·.1)) := by
  induction es generalizing s with
  | nil =>
    show s.storage.before[key]? = (s.storage.before[key]? <|> none)
    cases s.storage.before[key]? <;> rfl
  | cons e es ih =>
    rw [hearAll_cons, ih, storage_iterate_hear]
    cases e with
    | write account location current value =>
      rw [storage_hear_write, StorageDiff.before_write]
      by_cases hkey : location = key
      · rw [if_pos hkey, List.filterMap_cons, Event.writeAt?, if_pos hkey]
        cases s.storage.before[key]? <;> rfl
      · rw [if_neg hkey, List.filterMap_cons, Event.writeAt?, if_neg hkey]
    | trace | throw | rewind | create | direct => rfl

/-- **`after` holds what the last write to a location left there**, unless the location held it at
first. -/
theorem after_hearAll (s : Session) (es : List Event) (key : Word) :
    (s.hearAll (n + 1) es).storage.after[key]? =
      match (es.filterMap (Event.writeAt? key)).getLast? with
      | none => s.storage.after[key]?
      | some (_, value) =>
        if (s.hearAll (n + 1) es).storage.before[key]? = some value then none else some value := by
  -- the induction is on the last event, since it decides
  induction es using List.reverseRecOn with
  | nil => rfl
  | append_singleton es e ih =>
    rw [hearAll_concat, storage_iterate_hear, List.filterMap_append, List.getLast?_append]
    cases e with
    | write account location current value =>
      rw [storage_hear_write, StorageDiff.after_write]
      by_cases hkey : location = key
      · have hlast : [Event.write account location current value].filterMap
            (Event.writeAt? key) = [(current, value)] := by
          simp only [List.filterMap_cons, Event.writeAt?, if_pos hkey, List.filterMap_nil]
        simp only [if_pos hkey, hlast, List.getLast?_singleton, Option.some_or,
          StorageDiff.before_write, Option.some.injEq]
      · have hlast : [Event.write account location current value].filterMap
            (Event.writeAt? key) = [] := by
          simp only [List.filterMap_cons, Event.writeAt?, if_neg hkey, List.filterMap_nil]
        simp only [if_neg hkey, hlast, List.getLast?_nil, Option.none_or,
          StorageDiff.before_write]
        exact ih
    | trace | throw | rewind | create | direct => exact ih

end Session

/-! ### Pairs of watchdogs -/

namespace Host

variable {host : Host}

/-- An event that no session makes anything of is not heard. -/
theorem inform_of_unheard (pair : WatchPair) {e : Event} (h : ∀ s : Session, s.hear e = s) :
    host.inform pair e = pair := by
  unfold inform
  cases host.env.txHash with
  | none => rfl
  | some hash =>
    have hid : Watchdog.hear hash e = id := by
      funext dog
      rcases hs : dog.session with _ | s
      · simp only [Watchdog.hear, Watchdog.note, hs, id]
        rw [Option.map_none, ← hs]
      · simp only [Watchdog.hear, Watchdog.note, hs, id, h, ite_self]
        rw [Option.map_some, ← hs]
    dsimp only
    rw [hid, WatchPair.tell_id]

theorem outbox_inform (pair : WatchPair) (e : Event) :
    (host.inform pair e).outbox = pair.outbox := by
  unfold inform
  cases host.env.txHash with
  | none => rfl
  | some hash => exact pair.outbox_tell _ _

theorem outbox_informAll (pair : WatchPair) (es : List Event) :
    (es.foldl host.inform pair).outbox = pair.outbox := by
  induction es generalizing pair with
  | nil => rfl
  | cons e es ih => exact (ih _).trans (outbox_inform pair e)

/-- **A session hears all events of its transaction**, as often as its watchdog is in the list. -/
theorem session_informAll {kind : WatchKind} {pair : WatchPair} {s : Session}
    (hsession : (pair.get kind).session = some s) (hbound : host.env.txHash = some s.txHash)
    (es : List Event) :
    ((es.foldl host.inform pair).get kind).session =
      some (s.hearAll (host.watchers.count kind) es) := by
  induction es generalizing pair s with
  | nil => exact hsession
  | cons e es ih =>
    have hheard : ((host.inform pair e).get kind).session =
        some ((·.hear e)^[host.watchers.count kind] s) := by
      rw [inform, hbound]
      dsimp only
      rw [WatchPair.get_tell]
      exact Watchdog.session_iterate_hear hsession e _
    refine ih hheard ?_
    have hhash := Session.hearAll_induction (n := host.watchers.count kind)
      Session.txHash_hear s [e]
    rw [hbound]
    exact congrArg some hhash.symm

/-- A session whose watchdog is in the list hears all events at least once. -/
theorem session_informAll_of_mem {kind : WatchKind} (hkind : kind ∈ host.watchers)
    {pair : WatchPair} {s : Session} (hsession : (pair.get kind).session = some s)
    (hbound : host.env.txHash = some s.txHash) (es : List Event) :
    ∃ n, ((es.foldl host.inform pair).get kind).session = some (s.hearAll (n + 1) es) := by
  obtain ⟨n, hn⟩ : ∃ n, host.watchers.count kind = n + 1 :=
    Nat.exists_eq_succ_of_ne_zero (Nat.ne_of_gt (List.count_pos_iff.2 hkind))
  refine ⟨n, ?_⟩
  rw [← hn]
  exact session_informAll hsession hbound es

end Host

end CallWatch
