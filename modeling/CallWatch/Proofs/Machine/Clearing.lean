import CallWatch.Proofs.Ledger.Presence
import CallWatch.Proofs.Machine.Borrowing
import CallWatch.Proofs.Machine.LateFailure
import CallWatch.Proofs.Machine.Standing

/-!
# No empty accounts

Since the state-clearing fork, a transaction leaves no account behind as an empty one that was not
there before it, apart from the accounts of built-in contracts (`Host.no_empty_account`).

An account can come into being by any write, and one that was created with a balance can lose it
again in the same run.  What rules both out is that the account of a frame whose program runs is
anchored, by a nonce or by code: so whatever the program writes or pays, it does at an account that
is there and that is not empty without its balance.  A frame finds its account anchored, since it is
the account of the program that dispatched it, or the one whose code it runs, or one that was
created with a nonce.
-/

namespace CallWatch

open CallTree Ledger Run

/-! ### Moving value -/

/-- A counter that was raised is not zero. -/
theorem ne_zero_of_succ {nonce next : UInt64} (h : next.toNat = nonce.toNat + 1) : next ≠ 0 := by
  rintro rfl
  exact absurd h (Nat.succ_ne_zero _).symm

/-- The hooks of an environment move value: what they take goes to the receiver, nonces and code
stay, and so do all other accounts. -/
structure Environment.MovesValue (env : Environment) : Prop extends env.SparesOthers where
  identity : ∀ {sender receiver amount} {l l' : Ledger}, env.Moves sender receiver amount l l' →
    ∀ a, l'.nonceAt a = l.nonceAt a ∧ l'.codeAt a = l.codeAt a
  received : ∀ {sender receiver amount} {l l' : Ledger}, env.Moves sender receiver amount l l' →
    sender ≠ receiver → (l'.accounts.get receiver).balance.toNat =
      (l.accounts.get receiver).balance.toNat + amount.toNat

namespace Ledger

variable {l : Ledger} {a b : Address} {balance : Word}

theorem identity_setBalance : (l.setBalance b balance).nonceAt a = l.nonceAt a ∧
    (l.setBalance b balance).codeAt a = l.codeAt a :=
  ⟨nonceAt_write fun _ => rfl, codeAt_write fun _ => rfl⟩

end Ledger

/-- The hooks of an environment that sets none move value. -/
theorem Environment.movesValue_of_default {env : Environment} (hcan : env.canTransfer = .covers)
    (htransfer : env.transfer = .transfer) : env.MovesValue where
  toSparesOthers := Environment.sparesOthers_of_default hcan htransfer
  identity := by
    intro sender receiver amount l l' h a
    obtain ⟨l₁, hsub, hadd⟩ := h.steps htransfer
    obtain ⟨balance, -, rfl⟩ := eq_of_subBalance hsub
    obtain ⟨balance', -, rfl⟩ := eq_of_addBalance hadd
    exact ⟨identity_setBalance.1.trans identity_setBalance.1,
      identity_setBalance.2.trans identity_setBalance.2⟩
  received := by
    intro sender receiver amount l l' h hne
    obtain ⟨l₁, hsub, hadd⟩ := h.steps htransfer
    obtain ⟨balance, -, rfl⟩ := eq_of_subBalance hsub
    obtain ⟨balance', hsum, rfl⟩ := eq_of_addBalance hadd
    rw [setBalance, get_write, if_neg hne] at hsum
    rw [setBalance, get_write, if_pos rfl]
    exact Checked.addWord_eq_some_iff.1 hsum

/-- Value may be moved from an account that is anchored to one that is there. -/
theorem Environment.MovesValue.clearsAt {env : Environment} (hooks : env.MovesValue)
    {exempt : Address → Prop} {sender receiver : Address} {amount : Word} {l l' : Ledger}
    (h : env.Moves sender receiver amount l l') (hsender : l.IsAnchored sender)
    (hreceiver : receiver ∈ l.accounts) (a : Address) : ClearsAt exempt a l l' := by
  obtain ⟨hnonce, hcode⟩ := hooks.identity h a
  by_cases hs : sender = a
  · subst hs
    have hanchored : l'.IsAnchored sender := by
      rw [IsAnchored, hnonce, hcode]
      exact hsender
    exact .of_kept hnonce hcode fun _ => hanchored.isClear
  by_cases hr : receiver = a
  · subst hr
    refine .of_kept hnonce hcode fun hclear _ => ?_
    refine (hclear hreceiver).imp_right fun hno hempty => hno ?_
    -- an account that is empty now had no balance before
    obtain ⟨hbalance, hnonce', hcode'⟩ := hempty
    have hsum := hooks.received h hs
    have hzero : (l.accounts.get receiver).balance.toNat = 0 := by
      rw [hbalance] at hsum
      exact (Nat.eq_zero_of_add_eq_zero hsum.symm).1
    refine ⟨BitVec.toNat_inj.1 hzero, ?_, ?_⟩
    · rw [← hnonce']
      exact hnonce.symm
    · rw [← hcode']
      exact hcode.symm
  · exact .of_sameAccount (hooks.others h a hs hr)

namespace Host

variable {host : Host} {m m' : Machine NoFaults}

/-! ### Entering a frame -/

/-- The account is that of a built-in contract of the host. -/
def IsBuiltIn (host : Host) (a : Address) : Prop :=
  host.precompiles.contains a = true

/-- No account becomes empty. -/
def Clears (host : Host) (l l' : Ledger) : Prop :=
  ∀ a, ClearsAt host.IsBuiltIn a l l'

/-- No account of the machine becomes empty. -/
def ClearsLedger (host : Host) (m m' : Machine NoFaults) : Prop :=
  host.Clears m.store.ledger m'.store.ledger

instance : IsPreorder (Machine NoFaults) host.ClearsLedger where
  refl _ _ := .refl _
  trans _ _ _ h h' a := (h a).trans (h' a)

/-- An account that a creation has started has a nonce, since the state-clearing fork. -/
theorem nonceAt_started (hfork : host.rules.isEip158 = true) (account : Address) (l : Ledger) :
    (host.started account l).nonceAt account ≠ 0 := by
  rw [started, if_pos hfork, nonceAt_setNonce, if_pos rfl]
  decide

theorem clears_started (hfork : host.rules.isEip158 = true) (account : Address) (l : Ledger) :
    host.Clears l (host.started account l) := by
  intro a
  by_cases ha : account = a
  · subst ha
    exact .of_nonce (nonceAt_started hfork account l)
  · rw [started, if_pos hfork]
    have hcreated := sameAccount_createAccount (l := l) ha
    exact .of_sameAccount (hcreated.trans (sameAccount_write _ _ ha))

/-- The target of a call that appears is not empty after the value has been moved to it, as it is
only created if there is any. -/
theorem clears_appeared (hooks : host.env.MovesValue) (hfork : host.rules.isEip158 = true)
    {caller target : Address} {value : Word} {l l' : Ledger} (hcaller : l.IsAnchored caller)
    (hmissing : target ∉ l.accounts)
    (hallowed : host.precompiles.contains target ∨ host.rules.isEip158 = false ∨ value ≠ 0)
    (hmoves : host.env.Moves caller target value (l.createAccount target) l') :
    host.Clears l l' := by
  have hne : caller ≠ target := fun h => hmissing (h ▸ hcaller.mem)
  intro a
  by_cases ha : target = a
  · subst ha
    have hno : ¬l.IsAnchored target := fun h => hmissing h.mem
    refine ⟨fun h => (hno (.inl h)).elim, fun h => (hno h).elim, fun _ _ => ?_⟩
    rcases hallowed with hbuiltIn | hfork' | hvalue
    · exact .inl hbuiltIn
    · rw [hfork] at hfork'
      cases hfork'
    · refine .inr fun hempty => hvalue ?_
      have hsum := hooks.received hmoves hne
      rw [hempty.1] at hsum
      exact BitVec.toNat_inj.1 (Nat.eq_zero_of_add_eq_zero hsum.symm).2
  · have hcreated : ClearsAt host.IsBuiltIn a l (l.createAccount target) :=
      .of_sameAccount (sameAccount_createAccount ha)
    have hcaller' : (l.createAccount target).IsAnchored caller := by
      have hsame : ClearsAt host.IsBuiltIn caller l (l.createAccount target) :=
        .of_sameAccount (sameAccount_createAccount (Ne.symm hne))
      exact hsame.anchored hcaller
    exact hcreated.trans (hooks.clearsAt hmoves hcaller' Std.ExtTreeMap.mem_insert_self a)

/-- What is due where a primitive is dispatched: unless it is a creation, which raises a nonce
first, its payer is anchored. -/
def PaysFromAnchor (p : Primitive) (l : Ledger) : Prop :=
  p.IsCreation ∨ l.IsAnchored p.payer

/-- What a program relies on: the account of its frame is anchored. -/
def ActsOnAnchor (frame : Frame) (l : Ledger) : Prop :=
  frame.code ≠ [] → l.IsAnchored frame.account

/-- **Entering a frame leaves no empty account**, and the program of the frame finds its account
anchored.  That of a creation has a nonce. -/
theorem Enters.clears (hooks : host.env.MovesValue) (hfork : host.rules.isEip158 = true)
    {p : Primitive} {account : Address} {frame : Frame} {l₀ l l' : Ledger}
    (h : host.Enters l p account frame l') (hdue : PaysFromAnchor p l₀)
    (htakes : p.Takes l₀ account l) (haccount : frame.account = account) :
    host.Clears l l' ∧ ActsOnAnchor frame l' ∧
      (p.IsCreation → l'.nonceAt frame.account ≠ 0) := by
  rw [ActsOnAnchor, haccount]
  cases h with
  | present hthere hmoves hcode =>
    cases htakes
    have hcaller := hdue.resolve_left id
    refine ⟨hooks.clearsAt hmoves hcaller hthere, fun hno => .inr ?_, fun h => h.elim⟩
    rwa [← hcode]
  | appeared hmissing hallowed hmoves hcode =>
    cases htakes
    have hcaller := hdue.resolve_left id
    refine ⟨clears_appeared hooks hfork hcaller hmissing hallowed hmoves, fun hno => .inr ?_,
      fun h => h.elim⟩
    rwa [← hcode]
  | borrowed hcall hp =>
    obtain ⟨hpayer, rfl⟩ := htakes.eq_payer hcall hp
    refine ⟨fun a => .refl l, fun _ => ?_, fun h => (hp h).elim⟩
    rw [hpayer]
    exact hdue.resolve_left hp
  | @created caller _ code gas value _ _ hmoves =>
    have hcaller : l.IsAnchored caller := by
      obtain ⟨next, hnext, rfl⟩ := htakes.eq_setNonce
      refine .inl ?_
      rw [nonceAt_setNonce, if_pos rfl]
      exact ne_zero_of_succ hnext
    have hstarted := clears_started hfork account l
    have hthere : (host.started account l).IsAnchored account := .inl (nonceAt_started hfork _ _)
    have hnonce : l'.nonceAt account ≠ 0 := by
      rw [(hooks.identity hmoves account).1]
      exact nonceAt_started hfork account l
    refine ⟨fun a => (hstarted a).trans ?_, fun _ => .inl hnonce, fun _ => hnonce⟩
    exact hooks.clearsAt hmoves ((hstarted caller).anchored hcaller) hthere.mem a

/-! ### The run -/

/-- **No step of a run leaves an account empty** that was not there, since the state-clearing
fork. -/
theorem sustains_clears (hooks : host.env.MovesValue) (hfork : host.rules.isEip158 = true) :
    host.Sustains PaysFromAnchor ActsOnAnchor fun _ => host.Clears where
  refl _ l a := .refl l
  trans h h' a := (h a).trans (h' a)
  stable := by
    intro frame calls l l' hstands hclears hcode
    exact (hclears frame.account).anchored (hstands hcode)
  due_of_stands := by
    intro frame l p hcode hstands hpayer
    refine .inr ?_
    rw [hpayer]
    exact hstands hcode
  setState key value hcode hstands a := clearsAt_setState (hstands hcode) a
  raised _ hnext a := clearsAt_setNonce (ne_zero_of_succ hnext) a
  framed := by
    intro p account frame l₀ l l' l'' calls ended answer hdue htakes henters haccount hframe
    obtain ⟨hentered, hstands, hnonce⟩ := henters.clears hooks hfork hdue htakes haccount
    have hclears := hframe hstands
    refine ⟨fun a => (hentered a).trans (hclears a), fun hcreation code a => ?_⟩
    -- the account of a creation keeps its nonce, whatever code is stored at it
    have hkept : l''.nonceAt frame.account ≠ 0 :=
      (hclears frame.account).nonce (hnonce hcreation)
    exact ((hentered a).trans (hclears a)).trans (clearsAt_setCode hkept a)

section

variable (hooks : host.env.MovesValue) (hprograms : host.interpreter.ActsFromFrame)
  (hfork : host.rules.isEip158 = true)

include hooks hprograms hfork

theorem clears_guarded {p : Primitive} (hdue : PaysFromAnchor p m.store.ledger) :
    host.Clears m.store.ledger (guarded (host.dispatch p) m).2.store.ledger := by
  have hsustains := sustains_clears hooks hfork
  have hrun := hsustains.dispatch hooks.toIsTame hprograms p m hdue
  exact (hsustains.guarded hrun).related

/-- The sender of a transaction has a nonce when its primitive is dispatched, or the primitive
raises it. -/
theorem clears_runRoot (tx : Transaction) (m : Machine NoFaults) :
    host.Clears m.store.ledger (host.runRoot tx m).2.store.ledger := by
  cases hkind : tx.kind with
  | create =>
    rw [runRoot_create hkind]
    refine clears_guarded hooks hprograms hfork (.inl ?_)
    rw [root, hkind]
    trivial
  | call target =>
    rw [runRoot_call hkind]
    rcases raisingNonce_cases tx.sender (fun _ => guarded (host.dispatch (root tx))) m with
      ⟨_, m₁, hfailed, hsame⟩ | ⟨next, m₁, hraised, hnext, hledger⟩
    · rw [hfailed, show m₁.store.ledger = m.store.ledger from hsame]
      exact fun a => .refl _
    · have hnonce : next ≠ 0 := ne_zero_of_succ hnext
      have hpayer : (root tx).payer = tx.sender := by rw [root, hkind]; rfl
      have hdue : PaysFromAnchor (root tx) m₁.store.ledger := by
        refine .inr (.inl ?_)
        rw [hpayer, hledger, nonceAt_setNonce, if_pos rfl]
        exact hnonce
      have hrun := clears_guarded hooks hprograms hfork hdue
      rw [hraised]
      rw [hledger] at hrun
      exact fun a => (clearsAt_setNonce hnonce a).trans (hrun a)

/-- What is done around the run of a transaction leaves the ledger alone. -/
theorem clears_execute (tx : Transaction) (m : Machine NoFaults) :
    host.Clears m.store.ledger (host.execute tx m).2.store.ledger := by
  have hsame {α : Type} {x : Run NoFaults α} (hx : Keeps SameLedger x) :
      Keeps host.ClearsLedger x := by
    intro m a
    rw [show (x m).2.store.ledger = m.store.ledger from hx m]
    exact .refl _
  have hrun : Keeps host.ClearsLedger (host.runRoot tx) := clears_runRoot hooks hprograms hfork tx
  have hexecute : Keeps host.ClearsLedger (host.execute tx) := by
    unfold execute
    split
    · refine .bind (hsame (keeps_sameLedger_arm tx)) fun _ => .bind hrun.attempt fun answer => ?_
      cases answer with
      | error failure => exact hsame (keeps_sameLedger_abandon tx failure)
      | ok outcome => exact hsame (keeps_sameLedger_conclude tx outcome)
    · exact .fail _
  exact hexecute m

end

/-- **No empty accounts appear under the state-clearing fork**: whatever a transaction does, and
however it ends, an account that is there afterwards and was not there before is that of a built-in
contract, or it has a nonce, a balance or code. -/
theorem no_empty_account (hooks : host.env.MovesValue)
    (hprograms : host.interpreter.ActsFromFrame) (hfork : host.rules.isEip158 = true)
    (tx : Transaction) (m : Machine NoFaults) {a : Address}
    (hbefore : a ∉ m.store.ledger.accounts)
    (hafter : a ∈ (host.execute tx m).2.store.ledger.accounts) :
    host.precompiles.contains a = true ∨
      ¬((host.execute tx m).2.store.ledger.accounts.get a).IsEmpty :=
  (clears_execute hooks hprograms hfork tx m a).clear (fun h => (hbefore h).elim) hafter

end Host

/-- Account 9 pays account 20, and calls account 21 without a value. -/
def Interpreter.paying : Interpreter := fun frame _ =>
  .ask (.dispatch (.call frame.account 20 [] 5 3)) fun _ =>
    .ask (.dispatch (.call frame.account 21 [] 5 0)) fun _ =>
      .done { result := .ok [], gasLeft := frame.gasRemaining }

namespace Host

/-- A host for a transaction that calls account 9. -/
def ofPaying : Host where
  env := { txHash := some 7 }
  rules := ChainConfig.rules (.allForksActive 1) 0
  interpreter := .paying

/-- A machine with code at account 9, and with something to pay at account 1. -/
def beforePaying : Machine NoFaults where
  store := { ledger := (Ledger.seed {} 1 { balance := 5 }).seed 9 { code := [1] }, faults := {} }
  pair := .enabled (.dispatcher [])

/-- A call of account 9 with four units. -/
def callWithFour : Transaction :=
  { payment with value := 4 }

/-- Account 20 is created and not empty, and account 21 is not created. -/
theorem no_empty_account_paying :
    20 ∉ beforePaying.store.ledger.accounts ∧
      20 ∈ (ofPaying.execute callWithFour beforePaying).2.store.ledger.accounts ∧
      ¬((ofPaying.execute callWithFour beforePaying).2.store.ledger.accounts.get 20).IsEmpty ∧
      21 ∉ (ofPaying.execute callWithFour beforePaying).2.store.ledger.accounts := by
  have hbefore : 20 ∉ beforePaying.store.ledger.accounts := by decide +kernel
  have hafter : 20 ∈ (ofPaying.execute callWithFour beforePaying).2.store.ledger.accounts := by
    decide +kernel
  have hbuiltIn : ¬ofPaying.precompiles.contains 20 = true := by decide +kernel
  have hprograms : ofPaying.interpreter.ActsFromFrame :=
    fun _ _ => ⟨rfl, fun _ => ⟨rfl, fun _ => trivial⟩⟩
  have hclear := no_empty_account (Environment.movesValue_of_default rfl rfl) hprograms rfl
    callWithFour beforePaying hbefore hafter
  exact ⟨hbefore, hafter, hclear.resolve_left hbuiltIn, by decide +kernel⟩

end Host

end CallWatch
