import CallWatch.Proofs.Watch.Answering
import CallWatch.Proofs.Watch.Delivering

/-!
# Watched at most once

Any number of watchdogs share a registry and are visited in any order.  A transaction is then
watched by at most one of them, only once, and reported at most once; while it is watched, and ever
after, it is in the registry; a `watch` that is refused changes nothing
(`Kennel.watched_once`).

What is counted is how often a watchdog was armed for a hash: that pays for the session, and the
session pays for the report (`Watchdog.Step.budget`).
-/

namespace CallWatch

/-! ### One watchdog -/

namespace Watchdog

variable {balanceOf : Address → Except Unreadable Word} {dog dog' : Watchdog} {op : WatchOp}
  {answer : op.Answer} {hash : Word}

theorem isWatching_of_idle (h : dog.session = none) (hash : Word) :
    dog.isWatching hash = false := by
  rw [isWatching, armed?, h]
  rfl

theorem isWatching_of_session {session : Session} (h : dog.session = some session) (hash : Word) :
    dog.isWatching hash = decide (session.txHash = hash) := by
  rw [isWatching, armed?, h, Option.map_some]
  simp only [Option.some.injEq]

namespace Step

/-- **Nothing is watched for free, and nothing is reported for free**: a session takes an arming,
and a report takes a session. -/
theorem budget (h : Step balanceOf dog op answer dog') (hash : Word) :
    ((op.report? answer).any (·.hash = hash)).toNat + (dog'.isWatching hash).toNat ≤
      (dog.isWatching hash).toNat + (op.arms hash answer).toNat := by
  cases h with
  | refused =>
    show false.toNat + _ ≤ _
    rw [Bool.toNat_false]
    omega
  | @armed tx =>
    show false.toNat + (decide (some tx.hash = some hash)).toNat ≤
      _ + (decide (tx.hash = hash)).toNat
    simp only [Option.some.injEq, Bool.toNat_false]
    omega
  | ignored _ _ hanswer =>
    rw [hanswer, Option.any_none, Bool.toNat_false]
    omega
  | noted _ hends hsession =>
    rw [WatchOp.report?_of_ends hends, Option.any_none, Bool.toNat_false,
      isWatching_of_session hsession, isWatching_of_session rfl, Session.txHash_take]
    omega
  | @ended _ _ session _ _ hsession _ hreport =>
    rw [isWatching_of_session hsession, isWatching_of_idle rfl, Bool.toNat_false]
    cases hanswer : op.report? answer with
    | none =>
      rw [Option.any_none, Bool.toNat_false]
      omega
    | some report =>
      obtain ⟨_, _, _, _, _, rfl⟩ := hreport report hanswer
      show (decide (session.txHash = hash)).toNat + 0 ≤ _
      omega

/-- What is in the registry stays there. -/
theorem contains_registry (h : Step balanceOf dog op answer dog')
    (hcontains : dog.registry.contains hash = true) : dog'.registry.contains hash = true := by
  cases h with
  | refused | ignored | noted | ended => exact hcontains
  | armed =>
    rw [Std.ExtTreeSet.contains_insert, hcontains, Bool.or_true]

/-- A watchdog is only armed for a hash that nobody claimed, and claims it. -/
theorem claims (h : Step balanceOf dog op answer dog') (harms : op.arms hash answer = true) :
    dog.registry.contains hash = false ∧ dog'.registry.contains hash = true := by
  cases h with
  | refused hanswer => exact (hanswer (WatchOp.arms_watch_iff.1 harms).1).elim
  | armed _ hfree =>
    obtain ⟨-, rfl⟩ := WatchOp.arms_watch_iff.1 harms
    exact ⟨hfree, Std.ExtTreeSet.contains_insert_self⟩
  | ignored hop | noted hop | ended hop =>
    rw [WatchOp.arms_of_starts hop] at harms
    cases harms

/-- A `watch` that is refused changes nothing. -/
theorem eq_of_refused {tx : Transaction} {answer : Except Unreadable Bool}
    (h : Step balanceOf dog (.watch tx) answer dog') (hanswer : answer ≠ .ok true) :
    dog' = dog := by
  cases h with
  | refused => rfl
  | armed => exact (hanswer rfl).elim
  | ignored hop | noted hop | ended hop => cases hop

end Step

end Watchdog

/-! ### Many watchdogs -/

/-- Replacing one element changes a count by what the two elements count. -/
theorem countP_set_add {α : Type} {p : α → Bool} {l : List α} {i : Nat} (h : i < l.length)
    (a : α) : (l.set i a).countP p + (p l[i]).toNat = l.countP p + (p a).toNat := by
  rw [List.countP_set h]
  cases hp : p l[i] with
  | false => cases p a <;> rfl
  | true =>
    have hpos : 0 < l.countP p := List.countP_pos_iff.2 ⟨l[i], List.getElem_mem h, hp⟩
    rw [if_pos rfl, Bool.toNat_true]
    cases p a <;> simp only [Bool.toNat_true, Bool.toNat_false, if_true, if_false,
      Bool.false_eq_true] <;> omega

namespace Kennel

variable {kennel : Kennel}

/-- All watchdogs of the kennel share its registry. -/
def IsShared (kennel : Kennel) : Prop :=
  ∀ member ∈ kennel.members, member.isSharing = true

/-- How many watchdogs are armed for `hash`. -/
def sessions (hash : Word) (kennel : Kennel) : Nat :=
  kennel.members.countP (·.dog.isWatching hash)

/-- What an operation on one of the watchdogs can make of a kennel. -/
inductive Meets (kennel : Kennel) (op : WatchOp) : Option Exchange × Kennel → Prop
  /-- There is no watchdog at that place. -/
  | absent {balances : Std.ExtTreeMap Address Word} {outage : Option String} :
      Meets kennel op (none, { kennel with balances, outage })
  /-- The watchdog takes a step, in the registry of all, and a report is sent off. -/
  | met {i : Nat} (h : i < kennel.members.length)
      {balanceOf : Address → Except Unreadable Word} {answer : op.Answer} {dog : Watchdog}
      (hstep : Watchdog.Step balanceOf
        { kennel.members[i].dog with registry := kennel.common } op answer dog)
      {balances : Std.ExtTreeMap Address Word} {outage : Option String} :
      Meets kennel op (some ⟨op, balanceOf, answer⟩,
        { members := kennel.members.set i { dog, isSharing := true }
          common := dog.registry
          outbox := kennel.outbox.send? (op.report? answer)
          balances
          outage })

theorem lend_of_sharing {member : Member} (h : member.isSharing = true) :
    kennel.lend member = { member.dog with registry := kennel.common } :=
  if_pos h

/-- **A visit is answered by one step of one watchdog.** -/
theorem meets_meet (hshared : kennel.IsShared) (visit : Visit) :
    Meets kennel visit.op (kennel.meet visit) := by
  unfold meet perform?
  cases hmember : kennel.members[visit.place]? with
  | none =>
    simp only [foundBy, hmember, Option.map_none]
    exact .absent
  | some member =>
    obtain ⟨hplace, rfl⟩ := List.getElem?_eq_some_iff.1 hmember
    have hsharing := hshared _ (List.getElem_mem hplace)
    simp only [foundBy, hmember, Option.map_some, lend_of_sharing hsharing, hsharing, if_true]
    exact .met hplace (Watchdog.step_perform _ visit.op)

theorem serve_nil (kennel : Kennel) : kennel.serve [] = ([], kennel) :=
  rfl

theorem serve_cons (kennel : Kennel) (visit : Visit) (rest : List Visit) :
    kennel.serve (visit :: rest) =
      ((kennel.meet visit).1.toList ++ ((kennel.meet visit).2.serve rest).1,
        ((kennel.meet visit).2.serve rest).2) :=
  rfl

namespace Meets

variable {kennel' : Kennel} {op : WatchOp} {exchange? : Option Exchange}

theorem isShared (h : Meets kennel op (exchange?, kennel')) (hshared : kennel.IsShared) :
    kennel'.IsShared := by
  cases h with
  | absent => exact hshared
  | met =>
    intro member hmember
    rcases List.mem_or_eq_of_mem_set hmember with hmember | rfl
    · exact hshared member hmember
    · rfl

theorem contains_common {hash : Word} (h : Meets kennel op (exchange?, kennel'))
    (hcontains : kennel.common.contains hash = true) : kennel'.common.contains hash = true := by
  cases h with
  | absent => exact hcontains
  | met _ hstep => exact hstep.contains_registry hcontains

/-- A `watch` that is refused leaves the registry and all watchdogs as they are. -/
theorem dogs_of_refused {tx : Transaction} {balanceOf : Address → Except Unreadable Word}
    {answer : Except Unreadable Bool}
    (h : Meets kennel op (some ⟨.watch tx, balanceOf, answer⟩, kennel'))
    (hshared : kennel.IsShared) (hanswer : answer ≠ .ok true) :
    kennel'.common = kennel.common ∧ kennel'.dogs = kennel.dogs := by
  cases h with
  | @met i hplace _ _ _ hstep =>
    obtain rfl := hstep.eq_of_refused hanswer
    refine ⟨rfl, ?_⟩
    -- the watchdog is put back as it was lent
    have hsame : kennel.lend kennel.members[i] =
        { kennel.members[i].dog with registry := kennel.common } :=
      lend_of_sharing (hshared _ (List.getElem_mem hplace))
    have hplace' : i < kennel.dogs.length := by
      rwa [dogs, List.length_map]
    have hput : kennel.dogs[i] = kennel.lend kennel.members[i] := List.getElem_map _
    rw [dogs, List.map_set]
    show kennel.dogs.set i { kennel.members[i].dog with registry := kennel.common } = kennel.dogs
    rw [← hsame, ← hput, List.set_getElem_self]

end Meets

/-- What the exchanges with a kennel say about it. -/
structure Follows (start : Kennel) (past : List Exchange) (kennel : Kennel) : Prop where
  shared : kennel.IsShared
  /-- No hash was claimed more than once. -/
  once : ∀ hash, past.countP (Exchange.arms hash) ≤ 1
  /-- What was claimed is in the registry. -/
  claimed : ∀ hash, 0 < past.countP (Exchange.arms hash) → kennel.common.contains hash = true
  /-- Sessions and reports are paid for. -/
  budget : ∃ reports, kennel.outbox.reports = start.outbox.reports ++ reports ∧
    ∀ hash, reports.countP (·.hash = hash) + kennel.sessions hash ≤
      past.countP (Exchange.arms hash)

namespace Follows

variable {start kennel' : Kennel} {past : List Exchange}

theorem nil (hshared : start.IsShared)
    (hidle : ∀ member ∈ start.members, member.dog.session = none) : Follows start [] start where
  shared := hshared
  once _ := Nat.zero_le 1
  claimed _ := nofun
  budget := by
    refine ⟨[], (List.append_nil _).symm, fun hash => ?_⟩
    have hnone : start.sessions hash = 0 := by
      rw [sessions, List.countP_eq_zero]
      intro member hmember
      rw [Watchdog.isWatching_of_idle (hidle member hmember)]
      nofun
    rw [hnone]
    exact Nat.le_refl 0

/-- **One visit.** -/
theorem step (h : Follows start past kennel) {op : WatchOp} {exchange? : Option Exchange}
    (hmeets : Meets kennel op (exchange?, kennel')) :
    Follows start (past ++ exchange?.toList) kennel' := by
  cases hmeets with
  | absent =>
    rw [Option.toList_none, List.append_nil]
    exact ⟨h.shared, h.once, h.claimed, h.budget⟩
  | @met i hplace balanceOf answer dog hstep =>
    rw [Option.toList_some]
    have hcount (hash : Word) :
        (past ++ [(⟨op, balanceOf, answer⟩ : Exchange)]).countP (Exchange.arms hash) =
          past.countP (Exchange.arms hash) + (op.arms hash answer).toNat := by
      rw [List.countP_append, List.countP_singleton]
      show _ + ite (op.arms hash answer = true) 1 0 = _
      cases op.arms hash answer <;> rfl
    refine ⟨(Meets.met hplace hstep).isShared h.shared, fun hash => ?_, fun hash hpos => ?_, ?_⟩
    · rw [hcount]
      cases harms : op.arms hash answer with
      | false => exact h.once hash
      | true =>
        -- whatever was armed before is in the registry
        have hfree := (hstep.claims harms).1
        have hnone : past.countP (Exchange.arms hash) = 0 := by
          by_contra hne
          rw [h.claimed hash (Nat.pos_of_ne_zero hne)] at hfree
          cases hfree
        rw [hnone]
        exact Nat.le_refl 1
    · rw [hcount] at hpos
      cases harms : op.arms hash answer with
      | false =>
        rw [harms] at hpos
        exact hstep.contains_registry (h.claimed hash hpos)
      | true => exact (hstep.claims harms).2
    · obtain ⟨reports, hreports, hbudget⟩ := h.budget
      refine ⟨reports ++ (op.report? answer).toList, ?_, fun hash => ?_⟩
      · rw [Outbox.reports_send?, hreports, List.append_assoc]
      · have hpaid := hbudget hash
        have hstep := hstep.budget hash
        have hset := countP_set_add (p := fun member => member.dog.isWatching hash) hplace
          { dog, isSharing := true }
        have hreport : (op.report? answer).toList.countP (·.hash = hash) =
            ((op.report? answer).any (·.hash = hash)).toNat := by
          cases op.report? answer with
          | none => rfl
          | some report =>
            rw [Option.toList_some, List.countP_singleton, Option.any_some]
            cases decide (report.hash = hash) <;> rfl
        rw [hcount, List.countP_append, hreport]
        rw [sessions] at hpaid ⊢
        change _ + Bool.toNat (dog.isWatching hash) ≤
          Bool.toNat (kennel.members[i].dog.isWatching hash) + _ at hstep
        dsimp only at hset ⊢
        omega

theorem serve (h : Follows start past kennel) (visits : List Visit) :
    Follows start (past ++ (kennel.serve visits).1) (kennel.serve visits).2 := by
  induction visits generalizing past kennel with
  | nil =>
    rw [serve_nil, List.append_nil]
    exact h
  | cons visit rest ih =>
    rw [serve_cons, ← List.append_assoc]
    exact ih (h.step (meets_meet h.shared visit))

/-- Whoever is watched is in the registry. -/
theorem contains_of_isWatching (h : Follows start past kennel) {dog : Watchdog} {hash : Word}
    (hdog : dog ∈ kennel.dogs) (hwatching : dog.isWatching hash = true) :
    kennel.common.contains hash = true := by
  obtain ⟨member, hmember, rfl⟩ := List.mem_map.1 hdog
  rw [lend_of_sharing (h.shared member hmember)] at hwatching
  have hsessions : 0 < kennel.sessions hash :=
    List.countP_pos_iff.2 ⟨member, hmember, hwatching⟩
  obtain ⟨reports, -, hbudget⟩ := h.budget
  have := hbudget hash
  exact h.claimed hash (by omega)

end Follows

/-- What is in the registry stays there, whoever comes. -/
theorem contains_common_serve (hshared : kennel.IsShared) {hash : Word}
    (hcontains : kennel.common.contains hash = true) (visits : List Visit) :
    (kennel.serve visits).2.common.contains hash = true := by
  induction visits generalizing kennel with
  | nil => exact hcontains
  | cons visit rest ih =>
    have hmeets := meets_meet hshared visit
    rw [serve_cons]
    exact ih (hmeets.isShared hshared) (hmeets.contains_common hcontains)

/-- **Watched at most once.**  Watchdogs that share a registry, all of them at rest, are visited in
any order, while balances can be read or not.  Then, for every hash,

* at most one `watch` over all watchdogs succeeds, and at most one report is handed to the sink;
* the hash is in the registry while a watchdog is armed for it, and stays there, whoever comes
  next;
* and a `watch` that comes next and does not succeed leaves the registry and all sessions as they
  are. -/
theorem watched_once (hshared : kennel.IsShared)
    (hidle : ∀ member ∈ kennel.members, member.dog.session = none) (visits : List Visit) :
    let exchanges := (kennel.serve visits).1
    let kennel' := (kennel.serve visits).2
    (∀ hash, exchanges.countP (Exchange.arms hash) ≤ 1) ∧
    (∃ reports, kennel'.outbox.reports = kennel.outbox.reports ++ reports ∧
      ∀ hash, reports.countP (·.hash = hash) ≤ 1) ∧
    (∀ dog ∈ kennel'.dogs, ∀ hash, dog.isWatching hash = true →
      kennel'.common.contains hash = true ∧
        ∀ more, (kennel'.serve more).2.common.contains hash = true) ∧
    (∀ visit tx balanceOf answer after,
      kennel'.meet visit = (some ⟨.watch tx, balanceOf, answer⟩, after) → answer ≠ .ok true →
        after.common = kennel'.common ∧ after.dogs = kennel'.dogs) := by
  intro exchanges kennel'
  have hfollows : Follows kennel exchanges kennel' := (Follows.nil hshared hidle).serve visits
  refine ⟨hfollows.once, ?_, fun dog hdog hash hwatching => ?_,
    fun visit tx balanceOf answer after hmeet hanswer => ?_⟩
  · obtain ⟨reports, hreports, hbudget⟩ := hfollows.budget
    refine ⟨reports, hreports, fun hash => ?_⟩
    have honce := hfollows.once hash
    have hpaid := hbudget hash
    omega
  · have hcontains := hfollows.contains_of_isWatching hdog hwatching
    exact ⟨hcontains, contains_common_serve hfollows.shared hcontains⟩
  · have hmeets := meets_meet hfollows.shared visit
    rw [hmeet] at hmeets
    exact hmeets.dogs_of_refused hfollows.shared hanswer

/-- Two watchdogs with one registry. -/
def rivals : Kennel where
  members := [{ dog := { kind := .general }, isSharing := true },
    { dog := { kind := .tracer }, isSharing := true }]
  outbox := { sink := .outlet .recording }

/-- Both are asked to watch the transaction 1, again and again. -/
def rivalry : List Visit :=
  let watch : WatchOp := .watch ⟨1, 5, .call 7, 0, 0, 1000, 0, []⟩
  let finish : WatchOp := .finish ⟨1, true, 0, 0, none, []⟩ none
  [{ place := 0, op := watch, outage := some "away" },
    { place := 1, op := watch },
    { place := 0, op := watch },
    { place := 1, op := .writeTrace 1 "begin" },
    { place := 1, op := finish },
    { place := 1, op := watch },
    { place := 0, op := finish }]

/-- One of them watches it once, and there is one report. -/
theorem watched_once_rivals :
    rivals.IsShared ∧ (∀ member ∈ rivals.members, member.dog.session = none) ∧
      (rivals.serve rivalry).1.countP (Exchange.arms 1) = 1 ∧
      ∃ reports, (rivals.serve rivalry).2.outbox.reports = rivals.outbox.reports ++ reports ∧
        reports.countP (·.hash = 1) = 1 := by
  have hshared : rivals.IsShared := by
    unfold IsShared
    decide
  have hidle : ∀ member ∈ rivals.members, member.dog.session = none := by
    rintro member (_ | ⟨_, _ | ⟨_, ⟨⟩⟩⟩) <;> rfl
  obtain ⟨honce, ⟨reports, hreports, hmost⟩, -⟩ := watched_once hshared hidle rivalry
  have hleast : 0 < (rivals.serve rivalry).1.countP (Exchange.arms 1) ∧
      0 < (rivals.serve rivalry).2.outbox.reports.countP (·.hash = 1) := by
    decide +kernel
  refine ⟨hshared, hidle, Nat.le_antisymm (honce 1) hleast.1, reports, hreports, ?_⟩
  rw [hreports] at hleast
  exact Nat.le_antisymm (hmost 1) hleast.2

end Kennel

end CallWatch
