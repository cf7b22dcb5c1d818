import CallWatch.Proofs.Watch.Answering

/-!
# What a report covers

A watchdog answers any requests of any clients, about any transactions.  Whenever it hands out a
report, exactly one `watch` of that transaction succeeded before, the session was not ended in
between, and the report says what was noted of that transaction since then, no more and no less
(`Watchdog.report_serve`).

The invariant is `Watchdog.Follows`: the session, if there is one, was opened in the history of the
watchdog, and holds the notes about its transaction since then (`Session.OpenedIn`).
-/

namespace CallWatch

/-! ### Histories -/

namespace Exchange

/-- The operations about `hash` among some exchanges, in order. -/
def about (hash : Word) (exchanges : List Exchange) : List WatchOp :=
  (exchanges.map (·.op)).filter (·.hash = hash)

theorem about_concat (hash : Word) (exchanges : List Exchange) (exchange : Exchange) :
    about hash (exchanges ++ [exchange]) =
      about hash exchanges ++ if exchange.op.hash = hash then [exchange.op] else [] := by
  rw [about, List.map_append, List.filter_append]
  congr 1
  rw [List.map_singleton, List.filter_cons, List.filter_nil]
  simp only [decide_eq_true_eq]

end Exchange

/-- What is known of a `watch` that arms: the transaction, its target, and the balance read. -/
structure Arming where
  tx : Transaction
  target : Address
  balanceOf : Address → Except Unreadable Word
  balance : Word
  target_eq : tx.target? = some target
  balance_eq : balanceOf target = .ok balance

namespace Arming

/-- The exchange that arms. -/
def exchange (arming : Arming) : Exchange :=
  ⟨.watch arming.tx, arming.balanceOf, .ok true⟩

/-- The session, after some operations about the transaction. -/
def session (arming : Arming) (ops : List WatchOp) : Session :=
  .ofNotes arming.tx.hash arming.target arming.balance ops

theorem arms_exchange (arming : Arming) (hash : Word) :
    arming.exchange.arms hash = true ↔ arming.tx.hash = hash :=
  WatchOp.arms_watch_iff.trans (and_iff_right rfl)

end Arming

namespace Session

/-- The session was opened in the past and not ended since, and holds the notes made since. -/
def OpenedIn (past : List Exchange) (session : Session) : Prop :=
  ∃ (arming : Arming) (earlier later : List Exchange),
    past = earlier ++ arming.exchange :: later ∧
      (∀ op ∈ Exchange.about arming.tx.hash later, op.ends = false) ∧
      session = arming.session (Exchange.about arming.tx.hash later)

/-- **A session takes note of what concerns its transaction**, and of nothing else. -/
theorem OpenedIn.concat {past : List Exchange} {session : Session} (h : session.OpenedIn past)
    (exchange : Exchange)
    (hends : exchange.op.hash = session.txHash → exchange.op.ends = false) :
    (if exchange.op.hash = session.txHash then session.take exchange.op else session).OpenedIn
      (past ++ [exchange]) := by
  obtain ⟨arming, earlier, later, rfl, hopen, rfl⟩ := h
  refine ⟨arming, earlier, later ++ [exchange], by rw [List.append_assoc, List.cons_append], ?_⟩
  rw [Exchange.about_concat]
  change exchange.op.hash = arming.tx.hash → _ at hends
  change _ ∧ ite (exchange.op.hash = arming.tx.hash) _ _ = _
  by_cases hhash : exchange.op.hash = arming.tx.hash
  · rw [if_pos hhash, if_pos hhash]
    refine ⟨?_, take_ofNotes _ _ _ _ _⟩
    intro op hop
    rcases List.mem_append.1 hop with hop | hop
    · exact hopen op hop
    · rw [List.mem_singleton.1 hop]
      exact hends hhash
  · rw [if_neg hhash, if_neg hhash, List.append_nil]
    exact ⟨hopen, rfl⟩

end Session

namespace Watchdog

/-- What the history of a watchdog says about it. -/
structure Follows (past : List Exchange) (dog : Watchdog) : Prop where
  /-- Every hash that it was armed for is claimed. -/
  claimed : ∀ exchange ∈ past, ∀ hash, exchange.arms hash = true →
    dog.registry.contains hash = true
  /-- It was armed for a hash at most once. -/
  once : ∀ hash, past.countP (Exchange.arms hash) ≤ 1
  /-- Its session was opened in the past. -/
  opened : ∀ session, dog.session = some session → session.OpenedIn past

theorem serve_cons (dog : Watchdog) (request : Request) (rest : List Request) :
    dog.serve (request :: rest) =
      ((dog.meet request).1 :: ((dog.meet request).2.serve rest).1,
        ((dog.meet request).2.serve rest).2) :=
  rfl

namespace Follows

variable {past : List Exchange} {dog dog' : Watchdog}

/-- A watchdog at rest has no history. -/
theorem nil (hidle : dog.session = none) : Follows [] dog where
  claimed := nofun
  once _ := Nat.zero_le 1
  opened session hsession := by
    rw [hidle] at hsession
    cases hsession

/-- Hashes that others claim do not matter. -/
theorem share (h : Follows past dog) (claimed : List Word) :
    Follows past (dog.share claimed) where
  claimed exchange hexchange hash harms := by
    have hcontains := h.claimed exchange hexchange hash harms
    unfold Watchdog.share
    dsimp only
    generalize dog.registry = registry at hcontains
    induction claimed generalizing registry with
    | nil => exact hcontains
    | cons other claimed ih =>
      refine ih (registry.claim other).2 ?_
      rw [Registry.claim, Std.ExtTreeSet.contains_insert, hcontains, Bool.or_true]
  once := h.once
  opened := h.opened

/-- An exchange that does not arm the watchdog. -/
theorem concat (h : Follows past dog) {exchange : Exchange}
    (harms : ∀ hash, exchange.arms hash = false) (hregistry : dog'.registry = dog.registry)
    (hopened : ∀ session, dog'.session = some session →
      session.OpenedIn (past ++ [exchange])) :
    Follows (past ++ [exchange]) dog' where
  claimed other hother hash := by
    rw [hregistry]
    rcases List.mem_append.1 hother with hother | hother
    · exact h.claimed other hother hash
    · rw [List.mem_singleton.1 hother, harms]
      nofun
  once hash := by
    rw [List.countP_append, List.countP_singleton, harms]
    exact h.once hash
  opened := hopened

/-- No exchange armed a watchdog for a hash that is free. -/
theorem countP_eq_zero (h : Follows past dog) {hash : Word}
    (hfree : dog.registry.contains hash = false) : past.countP (Exchange.arms hash) = 0 := by
  rw [List.countP_eq_zero]
  intro exchange hexchange harms
  rw [h.claimed exchange hexchange hash harms] at hfree
  cases hfree

/-- An exchange that arms the watchdog. -/
theorem concat_arming (h : Follows past dog) (arming : Arming)
    (hfree : dog.registry.contains arming.tx.hash = false) :
    Follows (past ++ [arming.exchange])
      { dog with
        registry := dog.registry.insert arming.tx.hash
        session := some (arming.session []) } where
  claimed other hother hash harms := by
    rw [Std.ExtTreeSet.contains_insert]
    rcases List.mem_append.1 hother with hother | hother
    · rw [h.claimed other hother hash harms, Bool.or_true]
    · rw [List.mem_singleton.1 hother, arming.arms_exchange] at harms
      simp only [harms, Std.compare_self, beq_self_eq_true, Bool.true_or]
  once hash := by
    rw [List.countP_append, List.countP_singleton]
    split
    next harms =>
      rw [arming.arms_exchange] at harms
      have hnone := h.countP_eq_zero (harms ▸ hfree)
      omega
    next => exact h.once hash
  opened session hsession := by
    cases hsession
    exact ⟨arming, past, [], rfl, nofun, rfl⟩

/-- **One exchange.** -/
theorem step (h : Follows past dog) {balanceOf : Address → Except Unreadable Word}
    {op : WatchOp} {answer : op.Answer} (hstep : Step balanceOf dog op answer dog') :
    Follows (past ++ [⟨op, balanceOf, answer⟩]) dog' := by
  cases hstep with
  | @refused tx answer hanswer =>
    refine h.concat (fun hash => ?_) rfl fun session hsession => ?_
    · rw [Bool.eq_false_iff]
      exact fun harms => hanswer (WatchOp.arms_watch_iff.1 harms).1
    · have hopened := (h.opened session hsession).concat ⟨.watch tx, balanceOf, answer⟩
        fun _ => rfl
      -- a session takes no note of a `watch`
      rwa [show session.take (.watch tx) = session from rfl, ite_self] at hopened
  | @armed tx target balance hidle hfree htarget hbalance =>
    exact h.concat_arming ⟨tx, target, balanceOf, balance, htarget, hbalance⟩ hfree
  | ignored hop hother _ =>
    refine h.concat (WatchOp.arms_of_starts hop · answer) rfl fun session hsession => ?_
    have hhash : op.hash ≠ session.txHash := by
      intro hhash
      rw [isWatching_iff.2 ⟨session, hsession, hhash.symm⟩] at hother
      cases hother
    have hopened := (h.opened session hsession).concat ⟨op, balanceOf, answer⟩
      fun hhash' => (hhash hhash').elim
    rwa [if_neg hhash] at hopened
  | @noted _ _ session hop hends hsession hhash =>
    refine h.concat (WatchOp.arms_of_starts hop · answer) rfl fun session' hsession' => ?_
    cases hsession'
    have hopened := (h.opened session hsession).concat ⟨op, balanceOf, answer⟩
      fun _ => hends
    rwa [if_pos hhash.symm] at hopened
  | ended hop => exact h.concat (WatchOp.arms_of_starts hop · answer) rfl nofun

theorem meet (h : Follows past dog) (request : Request) :
    Follows (past ++ [(dog.meet request).1]) (dog.meet request).2 :=
  (h.share request.claimed).step (step_perform _ _)

/-- Every exchange of a history is with a watchdog that has the history before it. -/
theorem exists_meet {requests : List Request} {before after : List Exchange} {last : Exchange}
    (h : Follows past dog) (hserve : (dog.serve requests).1 = before ++ last :: after) :
    ∃ (dog' : Watchdog) (request : Request),
      Follows (past ++ before) dog' ∧ last = (dog'.meet request).1 := by
  induction before generalizing past dog requests with
  | nil =>
    cases requests with
    | nil => cases hserve
    | cons request rest =>
      rw [serve_cons] at hserve
      rw [List.append_nil]
      exact ⟨dog, request, h, (List.cons.inj hserve).1.symm⟩
  | cons exchange before ih =>
    cases requests with
    | nil => cases hserve
    | cons request rest =>
      rw [serve_cons] at hserve
      obtain ⟨hexchange, hrest⟩ := List.cons.inj hserve
      have hmeet := h.meet request
      rw [hexchange] at hmeet
      obtain ⟨dog', request', hdog', hlast⟩ := ih hmeet hrest
      rw [List.append_assoc, List.singleton_append] at hdog'
      exact ⟨dog', request', hdog', hlast⟩

end Follows

/-! ### Reports -/

/-- **A report is about one session.**  Whenever a watchdog that started at rest hands out a
report, whatever it was asked and told before, and by whom:

* it was armed for the transaction by exactly one exchange, and nothing ended the session since;
* the trace, the storage difference and the throw flag of the report are those of the operations
  about this transaction since then, in order;
* the balances are those of the target that were read then and now, and the receipt and the call
  log are the ones that came with the last request.

So nothing that is about another transaction, and nothing that came before the arming, is in the
report. -/
theorem report_serve {dog : Watchdog} (hidle : dog.session = none) {requests : List Request}
    {before after : List Exchange} {last : Exchange} {report : Report}
    (hserve : (dog.serve requests).1 = before ++ last :: after)
    (hreport : last.report? = some report) :
    ∃ (receipt : Receipt) (tracer : Option Json) (arming : Arming)
      (earlier later : List Exchange) (balanceNew : Word),
      last.op = .finish receipt tracer ∧
      before = earlier ++ arming.exchange :: later ∧
      arming.tx.hash = receipt.txHash ∧
      (∀ exchange ∈ earlier ++ later, exchange.arms receipt.txHash = false) ∧
      (∀ op ∈ Exchange.about receipt.txHash later, op.ends = false) ∧
      last.balanceOf arming.target = .ok balanceNew ∧
      report =
        let notes := Exchange.about receipt.txHash later
        let diff := StorageDiff.ofRecords (notes.filterMap WatchOp.record?)
        { trace := notes.filterMap WatchOp.line?
          hash := receipt.txHash
          storageNew := diff.after
          storageOld := diff.before
          balanceNew
          balanceOld := arming.balance
          receipt
          tracer
          hasThrow := notes.any WatchOp.flags } := by
  obtain ⟨dog', request, hfollows, rfl⟩ := (Follows.nil hidle).exists_meet hserve
  rw [List.nil_append] at hfollows
  obtain ⟨receipt, tracer, session, balanceNew, hop, hsession, hhash, hbalance, rfl⟩ :=
    (step_perform _ _).of_report hreport
  obtain ⟨arming, earlier, later, rfl, hopen, rfl⟩ := hfollows.opened session hsession
  change arming.tx.hash = receipt.txHash at hhash
  refine ⟨receipt, tracer, arming, earlier, later, balanceNew, hop, rfl, hhash, ?_, ?_, hbalance,
    ?_⟩
  · -- the arming exchange is counted already
    have honce := hfollows.once receipt.txHash
    rw [List.countP_append, List.countP_cons_of_pos ((arming.arms_exchange _).2 hhash)] at honce
    have hnone : (earlier ++ later).countP (Exchange.arms receipt.txHash) = 0 := by
      rw [List.countP_append]
      omega
    intro exchange hexchange
    exact Bool.eq_false_iff.2 (List.countP_eq_zero.1 hnone exchange hexchange)
  · rwa [← hhash]
  · rw [← hhash]
    rfl

/-- A call of the account 7. -/
def callOfSeven (hash : Word) : Transaction where
  hash
  sender := 5
  kind := .call 7
  nonce := 0
  value := 0
  gasLimit := 1000
  gasPrice := 0
  data := []

/-- What clients ask while the transaction 1 is watched and another client works on 2. -/
def overlapping : List Request :=
  let poor : Address → Except Unreadable Word := fun _ => .ok 10
  let rich : Address → Except Unreadable Word := fun _ => .ok 30
  [{ op := .writeTrace 1 "too early", balanceOf := poor },
    { op := .watch (callOfSeven 1), balanceOf := fun _ => .error ⟨"away"⟩ },
    { op := .watch (callOfSeven 1), balanceOf := poor, claimed := [3] },
    { op := .watch (callOfSeven 2), balanceOf := poor },
    { op := .writeTrace 2 "of another", balanceOf := poor },
    { op := .recordStorage 1 4 8, balanceOf := poor },
    { op := .recordStorage 1 4 9, balanceOf := poor },
    { op := .writeTrace 1 "in time", balanceOf := poor },
    { op := .flagThrow 2, balanceOf := poor },
    { op := .disarm 2, balanceOf := poor },
    { op := .finish ⟨1, true, 0, 0, none, []⟩ none, balanceOf := rich }]

/-- The report of the first transaction holds its own line alone. -/
theorem report_serve_overlapping :
    ∃ (dog : Watchdog) (before : List Exchange) (last : Exchange) (report : Report),
      dog.session = none ∧ (dog.serve overlapping).1 = before ++ [last] ∧
      last.report? = some report ∧ report.trace = ["in time"] ∧ report.hasThrow = false ∧
      report.balanceOld = 10 ∧ report.balanceNew = 30 ∧
      ∃ (arming : Arming) (earlier later : List Exchange),
        before = earlier ++ arming.exchange :: later ∧ arming.balance = report.balanceOld := by
  have hlast : ((({ kind := .general } : Watchdog).serve overlapping).1.getLast?.bind
      Exchange.report?).map (fun report =>
        (report.trace, report.hasThrow, report.balanceOld, report.balanceNew)) =
      some (["in time"], false, 10, 30) := by
    decide +kernel
  obtain ⟨report, hlast, hfields⟩ := Option.map_eq_some_iff.1 hlast
  obtain ⟨last, hlast, hreport⟩ := Option.bind_eq_some_iff.1 hlast
  obtain ⟨before, hserve⟩ := List.getLast?_eq_some_iff.1 hlast
  obtain ⟨_, _, arming, earlier, later, _, -, hbefore, -, -, -, -, rfl⟩ :=
    report_serve rfl hserve hreport
  simp only [Prod.mk.injEq] at hfields
  obtain ⟨htrace, hthrow, hold, hnew⟩ := hfields
  exact ⟨_, before, last, _, rfl, hserve, hreport, htrace, hthrow, hold, hnew, arming, earlier,
    later, hbefore, rfl⟩

end Watchdog

end CallWatch
