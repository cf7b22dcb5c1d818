import CallWatch.Ledger.Copying

/-!
# Clients of a store with snapshots

A client performs operations and names each snapshot by its place among those that it took, the
first one being at place 0.  A journaled ledger numbers its marks in another way, so its client
holds a ticket for each snapshot: the number that the ledger answered, and whether that number is
still good.  It is until the ledger goes back to a smaller one.

What a client sees of a store is the answer to each operation, numbers of snapshots apart, and the
accounts after it.  `IsLawful` says that a client only ever goes back to snapshots that are live.
-/

namespace CallWatch

/-- What a client sees of one operation. -/
structure Observation where
  op : StoreOp
  answer : Except StoreFault op.Answer
  /-- The accounts after the operation. -/
  accounts : Accounts

/-- The answer without the number of the snapshot, if it is one. -/
def StoreOp.hideToken : (op : StoreOp) → op.Answer → op.Answer
  | .snapshot, _ => 0
  | .exist _, answer | .createAccount _, answer | .getBalance _, answer | .addBalance _ _, answer
  | .subBalance _ _, answer | .getNonce _, answer | .setNonce _ _, answer | .getCode _, answer
  | .getCodeHash _, answer | .setCode _ _, answer | .getState _ _, answer | .setState _ _ _, answer
  | .revert _, answer => answer

/-- What a client of a copying ledger sees of a list of operations. -/
def CopyingLedger.observe (l : CopyingLedger) : List StoreOp → List Observation
  | [] => []
  | op :: ops =>
    let (answer, l) := l.perform op
    { op, answer := answer.map op.hideToken, accounts := l.accounts } :: l.observe ops

/-- A snapshot that a client took. -/
structure Ticket where
  /-- The number that the ledger answered. -/
  token : Nat
  /-- Whether the ledger has not gone back to a smaller number since. -/
  isLive : Bool := true
  deriving DecidableEq, Repr

/-- The ticket after the ledger went back to a number. -/
def Ticket.after (ticket : Ticket) (token : Nat) : Ticket :=
  { ticket with isLive := ticket.isLive && decide (ticket.token ≤ token) }

/-- A journaled ledger and the snapshots that its client took, first taken first. -/
structure LedgerClient where
  ledger : Ledger
  tickets : List Ticket := []

namespace LedgerClient

/-- Performs an operation; a client that goes back names the place of a snapshot. -/
def perform (c : LedgerClient) : (op : StoreOp) → Except StoreFault op.Answer × LedgerClient
  | .snapshot =>
    let (answer, ledger) := c.ledger.perform .snapshot
    (answer, { ledger, tickets := c.tickets ++ [{ token := c.ledger.snapshot }] })
  | .revert place =>
    match c.tickets[place]? with
    | none => (.error (.unknownSnapshot place), c)
    | some ticket =>
      let (answer, ledger) := c.ledger.perform (.revert ticket.token)
      (answer, { ledger, tickets := c.tickets.map (·.after ticket.token) })
  | op =>
    let (answer, ledger) := c.ledger.perform op
    (answer, { c with ledger })

/-- Whether an operation goes back to a live snapshot, if it goes back. -/
def NamesLive (c : LedgerClient) : StoreOp → Prop
  | .revert place => ∃ ticket, c.tickets[place]? = some ticket ∧ ticket.isLive
  | _ => True

/-- Whether each operation of a list, in its turn, goes back to a live snapshot, if it goes back. -/
def IsLawful (c : LedgerClient) : List StoreOp → Prop
  | [] => True
  | op :: ops => c.NamesLive op ∧ (c.perform op).2.IsLawful ops

/-- What the client sees of a list of operations. -/
def observe (c : LedgerClient) : List StoreOp → List Observation
  | [] => []
  | op :: ops =>
    let (answer, c) := c.perform op
    { op, answer := answer.map op.hideToken, accounts := c.ledger.accounts } :: c.observe ops

end LedgerClient

end CallWatch
