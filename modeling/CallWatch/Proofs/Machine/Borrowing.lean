import CallWatch.Proofs.Ledger.Presence
import CallWatch.Proofs.Ledger.Storage
import CallWatch.Proofs.Machine.Standing

/-!
# Borrowed code

An account whose code is run for other accounts, by call codes and delegate calls, is not changed by
that (`Host.borrowed_code_confined`).  Programs write in the context of their frame: the account
that the frame acts on, its caller and its value.  Only a call and a creation put the account that
they name in that place.  A call code puts its caller there, and a delegate call what its parent
has, so along a chain of delegates the context is that of the first frame below them that is none.
-/

namespace CallWatch

open CallTree Run

/-- The hooks of an environment move value between the two accounts that they are given, and leave
all others alone. -/
structure Environment.SparesOthers (env : Environment) : Prop extends env.IsTame where
  others : ∀ {sender receiver amount} {l l' : Ledger}, env.Moves sender receiver amount l l' →
    ∀ a, sender ≠ a → receiver ≠ a → l.SameAccount a l'

/-- The hooks of an environment that sets none spare others. -/
theorem Environment.sparesOthers_of_default {env : Environment} (hcan : env.canTransfer = .covers)
    (htransfer : env.transfer = .transfer) : env.SparesOthers where
  toIsTame := Environment.isTame_of_default hcan htransfer
  others := by
    intro sender receiver amount l l' h a hsender hreceiver
    obtain ⟨l₁, hsub, hadd⟩ := h.steps htransfer
    obtain ⟨balance, -, rfl⟩ := Ledger.eq_of_subBalance hsub
    obtain ⟨balance', -, rfl⟩ := Ledger.eq_of_addBalance hadd
    have hdebited : l.SameAccount a (l.setBalance sender balance) :=
      Ledger.sameAccount_write _ _ hsender
    exact hdebited.trans (Ledger.sameAccount_write _ _ hreceiver)

/-- A frame was set up for a call of this account, or for its creation. -/
def CallTree.Reaches (a : Address) : CallTree → Prop
  | framed (.call _ _ _ _ _) frame _ _ _ | framed (.create _ _ _ _) frame _ _ _ =>
    frame.account = a
  | framed _ _ _ _ _ | bare _ _ => False

instance (a : Address) : DecidablePred (CallTree.Reaches a) := fun call => by
  unfold CallTree.Reaches
  split <;> infer_instance

namespace Host

variable {host : Host} {a : Address} {m m' : Machine NoFaults}

/-- Entering a frame changes the accounts of the primitive only. -/
theorem Enters.sameAccount (hooks : host.env.SparesOthers) {l₀ l l' : Ledger} {p : Primitive}
    {account : Address} {frame : Frame} (h : host.Enters l p account frame l')
    (htakes : p.Takes l₀ account l) (hpayer : p.payer ≠ a) (haccount : account ≠ a) :
    l.SameAccount a l' := by
  cases h with
  | present hthere hmoves hcode =>
    cases htakes
    exact hooks.others hmoves a hpayer haccount
  | appeared hmissing hallowed hmoves hcode =>
    cases htakes
    have hothers := hooks.others hmoves a hpayer haccount
    exact (Ledger.sameAccount_createAccount haccount).trans hothers
  | borrowed => exact .refl l
  | created hmoves =>
    have hstarted : l.SameAccount a (host.started account l) := by
      have hcreated : l.SameAccount a (l.createAccount account) :=
        Ledger.sameAccount_createAccount haccount
      unfold started
      split
      · exact hcreated.trans (Ledger.sameAccount_write _ _ haccount)
      · exact hcreated
    exact hstarted.trans (hooks.others hmoves a hpayer haccount)

/-- The account of a frame is that of the payer, unless its primitive reaches it. -/
theorem account_ne_of_not_reaches {l₀ l : Ledger} {p : Primitive} {frame : Frame}
    {nested : List CallTree} {ended : Except Stop FrameEnd} {answer : Except Stop Outcome}
    (htakes : p.Takes l₀ frame.account l) (hpayer : p.payer ≠ a)
    (hreaches : ¬(CallTree.framed p frame nested ended answer).Reaches a) : frame.account ≠ a := by
  cases p with
  | call | create => exact hreaches
  | callCode | delegateCall =>
    generalize frame.account = account at htakes ⊢
    cases htakes
    exact hpayer

/-- **A run changes an account only by reaching it**, if it is not the payer of the primitive. -/
theorem sustains_sameAccount (hooks : host.env.SparesOthers) (a : Address) :
    host.Sustains (fun p _ => p.payer ≠ a) (fun frame _ => frame.account ≠ a)
      fun calls l l' => (∀ call ∈ allCalls calls, ¬call.Reaches a) → l.SameAccount a l' where
  refl _ l _ := .refl l
  trans h h' hno := by
    rw [allCalls_append, List.forall_mem_append] at hno
    exact (h hno.1).trans (h' hno.2)
  stable hstands _ := hstands
  due_of_stands _ hstands hpayer := hpayer ▸ hstands
  setState key value _ hstands _ := Ledger.sameAccount_write _ _ hstands
  raised hdue _ _ := Ledger.sameAccount_write _ _ hdue
  framed := by
    rintro p account frame l₀ l l' l'' calls ended answer hdue htakes henters rfl hframe
    have hsame (hno : ∀ call ∈ allCalls [.framed p frame calls ended answer], ¬call.Reaches a) :
        frame.account ≠ a ∧ l.SameAccount a l'' := by
      rw [allCalls_singleton, CallTree.calls, List.forall_mem_cons] at hno
      obtain ⟨hroot, hnested⟩ := hno
      have haccount : frame.account ≠ a := account_ne_of_not_reaches htakes hdue hroot
      have hentered := henters.sameAccount hooks htakes hdue haccount
      exact ⟨haccount, hentered.trans (hframe haccount hnested)⟩
    refine ⟨fun hno => (hsame hno).2, fun _ code hno => ?_⟩
    obtain ⟨haccount, hkept⟩ := hsame hno
    exact hkept.trans (Ledger.sameAccount_write _ _ haccount)

end Host

/-! ### The context of a delegate -/

/-- The frames have the same caller, value and account. -/
def Frame.SharesContext (frame other : Frame) : Prop :=
  frame.caller = other.caller ∧ frame.value = other.value ∧ frame.account = other.account

theorem Frame.SharesContext.trans {frame other third : Frame} (h : frame.SharesContext other)
    (h' : other.SharesContext third) : frame.SharesContext third :=
  ⟨h.1.trans h'.1, h.2.1.trans h'.2.1, h.2.2.trans h'.2.2⟩

/-- The primitive is a delegate call, and the frame has the context of its parent. -/
def Primitive.Lends (p : Primitive) (frame : Frame) : Prop :=
  ∃ parent codeAddress input gas,
    p = .delegateCall parent codeAddress input gas ∧ frame.SharesContext parent

/-- The frame has the context of the first frame around it that is no delegate, or of the parent of
the primitive in which all of them run, if there is no such frame. -/
def Primitive.Inherits (p : Primitive) (frame : Frame) (outer : List Frame) : Prop :=
  match outer.find? fun frame => !frame.isDelegate with
  | some enclosing => frame.SharesContext enclosing
  | none => p.Lends frame

/-- What a frame inherits inside of a primitive that was dispatched from a frame, it inherits
through that frame. -/
theorem Primitive.Inherits.concat {p p' : Primitive} {frame base : Frame} {outer : List Frame}
    (h : p'.Inherits frame outer) (hfrom : p'.IsFrom base)
    (hbase : base.isDelegate → p.Lends base) : p.Inherits frame (outer ++ [base]) := by
  unfold Inherits at h ⊢
  rw [List.find?_append]
  cases houter : outer.find? fun frame => !frame.isDelegate with
  | some enclosing =>
    rw [houter] at h
    exact h
  | none =>
    rw [houter] at h
    obtain ⟨parent, codeAddress, input, gas, rfl, hparent⟩ := h
    -- the parent is the frame from which the delegate call was dispatched
    have hsame : parent = { base with gasRemaining := parent.gasRemaining } := hfrom
    have hshares : frame.SharesContext base := by
      rw [hsame] at hparent
      exact hparent
    cases hdelegate : base.isDelegate with
    | false =>
      simp only [List.find?_cons, hdelegate, Bool.not_false, Option.none_or]
      exact hshares
    | true =>
      simp only [List.find?_cons, hdelegate, Bool.not_true, List.find?_nil, Option.none_or]
      obtain ⟨parent', codeAddress', input', gas', rfl, hlent⟩ := hbase hdelegate
      exact ⟨parent', codeAddress', input', gas', rfl, hshares.trans hlent⟩

namespace Host

section

variable {φ : Type} [FaultModel φ] {host : Host} {m m' : Machine φ}

/-- A frame that is set up is a delegate only if a parent lends it its context. -/
theorem lends_of_ready {p : Primitive} {mark : Nat} {frame : Frame}
    (h : host.setUp p m = (.ok (.ready mark frame), m')) (hdelegate : frame.isDelegate) :
    p.Lends frame := by
  rw [setUp, bind_eq_ok_iff] at h
  obtain ⟨outcome?, m₀, hrefusal, h⟩ := h
  cases outcome? with
  | some outcome => cases h
  | none =>
  obtain ⟨account, m₁, htake, h⟩ := bind_eq_ok_iff.1 h
  rw [prepare, bind_of_ok (snapshot_apply m₁)] at h
  obtain ⟨frame?, m₂, hundo, h⟩ := bind_eq_ok_iff.1 h
  have hframe := host.yields_enterFrame account p m₁ frame? m₂ (eq_ok_of_undoOnFailure hundo)
  cases frame? with
  | none => cases h
  | some frame' =>
  cases h
  obtain ⟨code, depth, rfl⟩ := hframe frame rfl
  cases p with
  | call | callCode | create => cases hdelegate
  | delegateCall parent codeAddress input gas =>
    cases htake
    exact ⟨parent, codeAddress, input, gas, rfl, rfl, rfl, rfl⟩

section

variable {nested : Primitive → Run φ Outcome} {inner : Primitive → Machine φ → List (Moment φ)}

/-- A moment of a program that acts from a frame is one of its own, or one of a primitive that was
dispatched from the frame. -/
theorem moment_of_mem_runMoments {base : Frame} {α : Type} {program : Program α}
    (hprogram : program.Only (Query.IsFrom base)) {m : Machine φ} {moment : Moment φ}
    (h : moment ∈ host.runMoments nested inner program m) :
    moment.running = [] ∨ ∃ p m', p.IsFrom base ∧ moment ∈ inner p m' := by
  have hafter {β : Type} {x : Run φ β} {next : β → Machine φ → List (Moment φ)} {m : Machine φ}
      (h : moment ∈ momentsAfter x next m) : ∃ b m', moment ∈ next b m' := by
    unfold momentsAfter at h
    split at h
    next b m' _ => exact ⟨b, m', h⟩
    next => cases h
  induction program generalizing m with
  | done | panic =>
    rw [List.mem_singleton.1 h]
    exact .inl rfl
  | ask query next ih =>
    obtain ⟨hquery, hnext⟩ := hprogram
    rcases List.mem_cons.1 h with rfl | h
    · exact .inl rfl
    rcases List.mem_append.1 h with h | h
    · cases query with
      | dispatch p => exact .inr ⟨p, m, hquery, h⟩
      | _ => cases h
    · obtain ⟨reply, m', h⟩ := hafter h
      exact ih reply (hnext reply) h
  | guarded body next ihBody ihNext =>
    obtain ⟨hbody, hnext⟩ := hprogram
    rcases List.mem_append.1 h with h | h
    · exact ihBody hbody h
    · obtain ⟨answer, m', h⟩ := hafter h
      exact ihNext answer (hnext answer) h

/-- A moment of a primitive is one of the program of its frame. -/
theorem exists_of_mem_primitiveMoments {p : Primitive} {m : Machine φ} {moment : Moment φ}
    (h : moment ∈ host.primitiveMoments nested inner p m) :
    ∃ mark base m₁ m₂ moment', host.setUp p m = (.ok (.ready mark base), m₁) ∧
      moment' ∈ host.runMoments nested inner (host.interpreter base base.calldata) m₂ ∧
      moment = moment'.inside base := by
  unfold primitiveMoments at h
  rcases hs : host.setUp p m with ⟨stop | outcome | ⟨mark, base⟩, m₁⟩
  all_goals rw [hs] at h
  · cases h
  · cases h
  dsimp only at h
  rcases host.runFrame_cases base base.calldata m₁ with ⟨ended, hends⟩ | ⟨-, depth, -, hstarts⟩
  · rw [(hends nested).2.2 inner] at h
    cases h
  · rw [(hstarts nested).2.2 inner, List.mem_map] at h
    obtain ⟨moment', hmoment', rfl⟩ := h
    exact ⟨mark, base, m₁, _, moment', rfl, hmoment', rfl⟩

end

/-- **A delegate that runs inherits its context**: by induction on how deeply primitives may nest,
where each level adds the frame of its primitive outside of those that it runs. -/
theorem inherits_momentsWithin (hprograms : host.interpreter.ActsFromFrame) {bound : Nat}
    {p : Primitive} {moment : Moment φ} (h : moment ∈ host.momentsWithin bound p m)
    {frame : Frame} {inner outer : List Frame} (hrunning : moment.running = inner ++ frame :: outer)
    (hdelegate : frame.isDelegate) : p.Inherits frame outer := by
  induction bound generalizing p m moment outer with
  | zero => cases h
  | succ bound ih =>
    obtain ⟨mark, base, m₁, m₂, moment', hs, hmoment', rfl⟩ := exists_of_mem_primitiveMoments h
    have hbase : base.isDelegate → p.Lends base := lends_of_ready hs
    change moment'.running ++ [base] = inner ++ frame :: outer at hrunning
    rcases outer.eq_nil_or_concat with rfl | ⟨outer', last, rfl⟩
    · -- the frame is the outermost one
      obtain ⟨-, hlast⟩ := List.append_inj' hrunning rfl
      cases hlast
      exact hbase hdelegate
    · rw [List.concat_eq_append] at hrunning ⊢
      have hinner : moment'.running ++ [base] = (inner ++ frame :: outer') ++ [last] := by
        rw [hrunning, List.append_assoc]
        rfl
      obtain ⟨hrunning', hlast⟩ := List.append_inj' hinner rfl
      cases hlast
      rcases moment_of_mem_runMoments (hprograms base base.calldata) hmoment' with
        hown | ⟨p', m', hfrom, hmem⟩
      · simp [hown] at hrunning'
      · exact (ih hmem hrunning').concat hfrom hbase

end

/-! ### The main statement -/

/-- **Borrowed code cannot touch its owner.**  Where programs act from their own frames, a primitive
leaves every account as it was that it is not charged to, and that no call and no creation in it
reaches, however often the code of that account was run for others, and however the primitive
ends.  And every delegate that runs has the caller, the value and the account of the first frame
around it that is no delegate, or of the parent of the primitive if there is none. -/
theorem borrowed_code_confined {host : Host} (hooks : host.env.SparesOthers)
    (hprograms : host.interpreter.ActsFromFrame) (p : Primitive) (m : Machine NoFaults) :
    (∀ a, p.payer ≠ a → (∀ call ∈ (host.callTree p m).calls, ¬call.Reaches a) →
      (host.dispatch p m).2.store.ledger.accounts[a]? = m.store.ledger.accounts[a]?) ∧
      ∀ moment ∈ host.moments p m, ∀ inner frame outer, moment.running = inner ++ frame :: outer →
        frame.isDelegate → p.Inherits frame outer := by
  refine ⟨fun a hpayer hcalls => ?_, fun moment hmoment inner frame outer hrunning hdelegate => ?_⟩
  · have hsustained := (sustains_sameAccount hooks a).dispatch hooks.toIsTame hprograms p m hpayer
    rw [← allCalls_singleton] at hcalls
    exact hsustained.related hcalls
  · exact inherits_momentsWithin hprograms hmoment hrunning hdelegate

end Host

/-- Account 9 runs the code of account 8, whose code writes a slot and then runs itself again as a
delegate, which writes another one. -/
def Interpreter.proxying : Interpreter := fun frame _ =>
  let write (key : Word) (next : Program FrameEnd) : Program FrameEnd :=
    .ask (.storeWord frame.account key 7) fun _ => next
  let ended : Program FrameEnd := .done { result := .ok [], gasLeft := frame.gasRemaining }
  if frame.isDelegate then write 2 ended
  else if frame.codeAddress = 8 then
    write 1 (.ask (.dispatch (.delegateCall frame 8 [] 5)) fun _ => ended)
  else .ask (.dispatch (.callCode frame.account 8 [] 5 0)) fun _ => ended

theorem Interpreter.actsFromFrame_proxying : proxying.ActsFromFrame := by
  intro frame input
  unfold proxying
  dsimp only
  split
  · exact ⟨rfl, fun _ => trivial⟩
  split
  · exact ⟨rfl, fun _ => ⟨rfl, fun _ => trivial⟩⟩
  · exact ⟨rfl, fun _ => trivial⟩

namespace Host

/-- A host on which account 9 runs the code of account 8. -/
def ofProxying : Host where
  rules := ChainConfig.rules (.allForksActive 1) 0
  interpreter := .proxying

/-- Both slots are written at account 9, the second one by a delegate. -/
theorem borrowed_code_confined_proxying :
    (ofProxying.dispatch (.call 1 9 [] 10 0) withCode).2.store.ledger.accounts[(8 : Address)]? =
        withCode.store.ledger.accounts[(8 : Address)]? ∧
      (ofProxying.dispatch (.call 1 9 [] 10 0) withCode).2.store.ledger.slot 9 2 = 7 ∧
      (ofProxying.moments (.call 1 9 [] 10 0) withCode).any
        (fun moment => moment.running.any (·.isDelegate)) = true := by
  have hooks : ofProxying.env.SparesOthers := Environment.sparesOthers_of_default rfl rfl
  have hcalls : ∀ call ∈ (ofProxying.callTree (.call 1 9 [] 10 0) withCode).calls,
      ¬call.Reaches 8 := by
    decide +kernel
  refine ⟨?_, by decide +kernel, by decide +kernel⟩
  exact (borrowed_code_confined hooks Interpreter.actsFromFrame_proxying (.call 1 9 [] 10 0)
    withCode).1 8 (by decide) hcalls

end Host

end CallWatch
