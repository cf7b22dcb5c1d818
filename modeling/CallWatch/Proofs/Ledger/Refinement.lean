import CallWatch.Ledger.Client
import CallWatch.Proofs.Ledger.Journal

/-!
# The journaled ledger is a copying ledger

The journaled ledger and the one that copies all accounts at every snapshot cannot be told apart by
a client that only goes back to live snapshots (`LedgerClient.observe_journaled_eq_copying`).

The invariant is `Related`: both hold the same accounts, and for every live ticket there is a past
ledger with the number of the ticket that precedes the present one and whose accounts are the copy
at the same place.  Operations other than snapshots and reverts keep it because they lead forward;
going back to a ticket gives the past ledger of that ticket, and the tickets that stay live are
those whose past ledgers precede it.
-/

namespace CallWatch

/-! ### One operation on both ledgers -/

section

variable {l : Ledger} {k : CopyingLedger}

/-- Whether an operation neither takes a snapshot nor goes back to one. -/
def StoreOp.IsPlain : StoreOp → Prop
  | .snapshot | .revert _ => False
  | _ => True

theorem CopyingLedger.copies_perform {op : StoreOp} (hop : op.IsPlain) :
    (k.perform op).2.copies = k.copies := by
  cases op with
  | addBalance a amount => unfold perform; dsimp only; split <;> rfl
  | subBalance a amount => unfold perform; dsimp only; split <;> rfl
  | snapshot | revert => exact hop.elim
  | _ => rfl

/-- **On equal accounts both ledgers give the same answer and have equal accounts after it.** -/
theorem Ledger.perform_agrees (h : l.accounts = k.accounts) {op : StoreOp} (hop : op.IsPlain) :
    (l.perform op).1 = (k.perform op).1 ∧
      (l.perform op).2.accounts = (k.perform op).2.accounts := by
  obtain ⟨accounts, copies⟩ := k
  dsimp only at h
  subst h
  cases op with
  | addBalance a amount =>
    simp only [Ledger.perform, CopyingLedger.perform, Ledger.addBalance]
    cases Checked.addWord (l.accounts.get a).balance amount with
    | none => exact ⟨rfl, rfl⟩
    | some balance => exact ⟨rfl, accounts_write l a _ _⟩
  | subBalance a amount =>
    simp only [Ledger.perform, CopyingLedger.perform, Ledger.subBalance]
    cases Checked.subWord (l.accounts.get a).balance amount with
    | none => exact ⟨rfl, rfl⟩
    | some balance => exact ⟨rfl, accounts_write l a _ _⟩
  | setNonce | setCode | setState => exact ⟨rfl, accounts_write l _ _ _⟩
  | snapshot | revert => exact hop.elim
  | exist | createAccount | getBalance | getNonce | getCode | getCodeHash | getState =>
    exact ⟨rfl, rfl⟩

end

/-! ### The invariant -/

namespace LedgerClient

variable {c : LedgerClient} {k : CopyingLedger}

/-- Both stores hold the same accounts, and each live ticket has a past ledger whose accounts are
the copy at its place. -/
structure Related (c : LedgerClient) (k : CopyingLedger) : Prop where
  accounts_eq : c.ledger.accounts = k.accounts
  length_eq : c.tickets.length = k.copies.length
  past : ∀ (place : Nat) (ticket : Ticket), c.tickets[place]? = some ticket → ticket.isLive →
    ∃ l : Ledger, l.Precedes c.ledger ∧ l.snapshot = ticket.token ∧
      k.copies[place]? = some l.accounts

theorem related_start (l : Ledger) : Related { ledger := l } { accounts := l.accounts } :=
  ⟨rfl, rfl, fun place _ h => by cases h⟩

theorem perform_plain {op : StoreOp} (hop : op.IsPlain) :
    c.perform op = ((c.ledger.perform op).1, { c with ledger := (c.ledger.perform op).2 }) := by
  cases op with
  | snapshot | revert => exact hop.elim
  | _ => rfl

theorem Related.plain (h : Related c k) {op : StoreOp} (hop : op.IsPlain) :
    (c.perform op).1 = (k.perform op).1 ∧ Related (c.perform op).2 (k.perform op).2 := by
  obtain ⟨hanswer, haccounts⟩ := Ledger.perform_agrees h.accounts_eq hop
  have hforward : c.ledger.Precedes (c.ledger.perform op).2 :=
    (Ledger.Precedes.refl c.ledger).perform fun mark heq => by subst heq; exact hop.elim
  rw [perform_plain hop]
  refine ⟨hanswer, haccounts, ?_, ?_⟩
  · rw [CopyingLedger.copies_perform hop]
    exact h.length_eq
  · intro place ticket hticket hlive
    -- the past ledger of a ticket precedes the new ledger as it did the old one
    obtain ⟨l, hl, htoken, hcopy⟩ := h.past place ticket hticket hlive
    rw [CopyingLedger.copies_perform hop]
    exact ⟨l, hl.trans hforward, htoken, hcopy⟩

theorem Related.snapshot (h : Related c k) :
    Related (c.perform .snapshot).2 (k.perform .snapshot).2 := by
  refine ⟨h.accounts_eq, ?_, ?_⟩
  · show (c.tickets ++ [_]).length = (k.copies ++ [_]).length
    rw [List.length_append, List.length_append, h.length_eq]
    rfl
  · intro place ticket hticket hlive
    change (c.tickets ++ [{ token := c.ledger.snapshot }])[place]? = some ticket at hticket
    show ∃ l, _ ∧ _ ∧ (k.copies ++ [k.accounts])[place]? = _
    rcases Nat.lt_trichotomy place c.tickets.length with hlt | heq | hgt
    · -- an older ticket keeps its past ledger and its copy
      rw [List.getElem?_append_left hlt] at hticket
      rw [List.getElem?_append_left (h.length_eq ▸ hlt)]
      exact h.past place ticket hticket hlive
    · -- the past ledger of the new ticket is the present one
      subst heq
      rw [List.getElem?_concat_length] at hticket
      obtain rfl := Option.some.inj hticket
      refine ⟨c.ledger, .refl _, rfl, ?_⟩
      rw [h.length_eq, List.getElem?_concat_length, h.accounts_eq]
    · -- there is no ticket beyond the new one
      rw [List.getElem?_eq_none (by simp only [List.length_append, List.length_singleton]; omega)]
        at hticket
      cases hticket

theorem Related.revert (h : Related c k) {place : Nat} (hlive : c.NamesLive (.revert place)) :
    (c.perform (.revert place)).1 = (k.perform (.revert place)).1 ∧
      Related (c.perform (.revert place)).2 (k.perform (.revert place)).2 := by
  obtain ⟨ticket, hticket, hlive⟩ := hlive
  obtain ⟨l, hl, htoken, hcopy⟩ := h.past place ticket hticket hlive
  -- the journaled ledger goes back to the past ledger, the copying one to its accounts
  have hc : c.perform (.revert place) =
      (.ok (), { ledger := l, tickets := c.tickets.map (·.after l.snapshot) }) := by
    simp only [perform, hticket, Ledger.perform, ← htoken, hl.revert_eq, Ledger.settle]
  have hk : k.perform (.revert place) = (.ok (), { k with accounts := l.accounts }) := by
    simp only [CopyingLedger.perform, CopyingLedger.revert, hcopy]
  rw [hc, hk]
  refine ⟨rfl, rfl, ?_, ?_⟩
  · rw [List.length_map]
    exact h.length_eq
  · intro place' ticket' hticket' hlive'
    rw [List.getElem?_map, Option.map_eq_some_iff] at hticket'
    obtain ⟨old, hold, rfl⟩ := hticket'
    -- a ticket that stays live is not newer than the one that was named
    simp only [Ticket.after, Bool.and_eq_true, decide_eq_true_eq] at hlive'
    obtain ⟨past, hpast, htoken', hcopy'⟩ := h.past place' old hold hlive'.1
    exact ⟨past, hpast.revert (htoken' ▸ hlive'.2) hl.revert_eq, htoken', hcopy'⟩

/-- **One lawful operation** gives the same answer on both sides, numbers of snapshots apart, and
keeps the invariant. -/
theorem Related.perform (h : Related c k) {op : StoreOp} (hop : c.NamesLive op) :
    (c.perform op).1.map op.hideToken = (k.perform op).1.map op.hideToken ∧
      Related (c.perform op).2 (k.perform op).2 := by
  by_cases hplain : op.IsPlain
  · obtain ⟨hanswer, hrelated⟩ := h.plain hplain
    exact ⟨by rw [hanswer], hrelated⟩
  · cases op with
    | snapshot => exact ⟨rfl, h.snapshot⟩
    | revert place =>
      obtain ⟨hanswer, hrelated⟩ := h.revert hop
      exact ⟨by rw [hanswer], hrelated⟩
    | _ => exact (hplain trivial).elim

theorem Related.observe_eq (h : Related c k) {ops : List StoreOp} (hops : c.IsLawful ops) :
    c.observe ops = k.observe ops := by
  induction ops generalizing c k with
  | nil => rfl
  | cons op ops ih =>
    obtain ⟨hop, hops⟩ := hops
    obtain ⟨hanswer, hrelated⟩ := h.perform hop
    rw [observe, CopyingLedger.observe]
    dsimp only
    rw [hanswer, hrelated.accounts_eq, ih hrelated hops]

/-! ### The main statement -/

/-- **A lawful client cannot tell the journaled ledger from the copying one**: from any ledger on,
every answer and all accounts after every operation are the same.  An operation that the journaled
ledger refuses changes neither its accounts nor its journal. -/
theorem observe_journaled_eq_copying (l : Ledger) (ops : List StoreOp)
    (hops : IsLawful { ledger := l } ops) :
    observe { ledger := l } ops = CopyingLedger.observe { accounts := l.accounts } ops ∧
      ∀ (l' : Ledger) (op : StoreOp) (fault : StoreFault),
        (l'.perform op).1 = .error fault → (l'.perform op).2 = l' :=
  ⟨(related_start l).observe_eq hops, fun _ _ _ => Ledger.perform_eq_of_error⟩

/-- A client that takes two snapshots of one state, goes back to the older one and then still to
the younger one, with an account created over another one and a refused debit in between. -/
theorem observe_nested_snapshots :
    let ops : List StoreOp := [.addBalance 1 5, .snapshot, .setState 1 7 9, .snapshot, .snapshot,
      .createAccount 1, .subBalance 2 1, .revert 1, .setNonce 3 4, .revert 2, .revert 0,
      .getState 1 7, .revert 0]
    IsLawful { ledger := {} } ops ∧
      observe { ledger := {} } ops = CopyingLedger.observe { accounts := ∅ } ops := by
  intro ops
  have hops : IsLawful { ledger := {} } ops :=
    ⟨trivial, trivial, trivial, trivial, trivial, trivial, trivial, ⟨_, rfl, rfl⟩, trivial,
      ⟨_, rfl, rfl⟩, ⟨_, rfl, rfl⟩, trivial, ⟨_, rfl, rfl⟩, trivial⟩
  exact ⟨hops, (observe_journaled_eq_copying {} ops hops).1⟩

end LedgerClient

end CallWatch
