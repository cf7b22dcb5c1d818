import CallWatch.Proofs.Wire.Forms
import CallWatch.Wire.Failure
import CallWatch.Wire.Settings
import CallWatch.Wire.Transaction

/-!
# Records and alternatives read back what they write

Transactions, receipts, settings, failures and results: each of their forms recovers every value,
for the fields of a record are found by their names and what an alternative carries by its own.
The number of a snapshot that a failure names must fit a counter.
-/

namespace CallWatch

open Form

/-! ### Transactions -/

theorem TxKind.form_recovers (kind : TxKind) : TxKind.form.Recovers kind := by
  cases kind with
  | create => exact ⟨trivial, rfl⟩
  | call target =>
    have htarget := address_recovers target
    exact ⟨htarget.isPlain_carrying _, by
      simp [TxKind.form, alternative?_carrying, htarget.read?]⟩

theorem Transaction.form_recovers (tx : Transaction) : Transaction.form.Recovers tx where
  isPlain := ⟨(digest_recovers _).isPlain, (address_recovers _).isPlain,
    (TxKind.form_recovers _).isPlain, (counter_recovers _).isPlain, (quantity_recovers _).isPlain,
    (counter_recovers _).isPlain, (quantity_recovers _).isPlain, (bytes_recovers _).isPlain,
    trivial⟩
  read? := by
    have hfields : fields?
        ["hash", "from", "to", "nonce", "value", "gas_limit", "gas_price", "data"] 0
        (Transaction.form.write tx) =
          some [some (digest.write tx.hash), some (address.write tx.sender),
            some (TxKind.form.write tx.kind), some (counter.write tx.nonce),
            some (quantity.write tx.value), some (counter.write tx.gasLimit),
            some (quantity.write tx.gasPrice), some (bytes.write tx.data)] :=
      fields?_members (by rfl) rfl (by decide) 0
    generalize Transaction.form.write tx = v at hfields ⊢
    simp [Transaction.form, hfields, (digest_recovers _).required?,
      (address_recovers _).required?, (TxKind.form_recovers _).required?,
      (counter_recovers _).required?, (quantity_recovers _).required?,
      (bytes_recovers _).required?]

/-! ### Receipts -/

theorem LogRecord.form_recovers (log : LogRecord) : LogRecord.form.Recovers log where
  isPlain := ⟨(address_recovers _).isPlain,
    (list_recovers fun topic _ => digest_recovers topic).isPlain, (bytes_recovers _).isPlain,
    trivial⟩
  read? := by
    have htopics := list_recovers fun topic (_ : topic ∈ log.topics) => digest_recovers topic
    have hfields : fields? ["address", "topics", "data"] 0 (LogRecord.form.write log) =
        some [some (Form.address.write log.address),
          some ((Form.list .digest).write log.topics), some (Form.bytes.write log.data)] :=
      fields?_members (by rfl) rfl (by decide) 0
    generalize LogRecord.form.write log = v at hfields ⊢
    simp [LogRecord.form, hfields, (address_recovers _).required?, htopics.required?,
      (bytes_recovers _).required?]

theorem Receipt.form_recovers (receipt : Receipt) : Receipt.form.Recovers receipt := by
  have hlogs := list_recovers fun log (_ : log ∈ receipt.logs) => LogRecord.form_recovers log
  have hcontract := optional_recovers
    (fun contract (_ : contract ∈ receipt.contractAddress) => address_recovers contract) nofun
  constructor
  · exact arePlainMembers_append.2 ⟨arePlainMembers_append.2
      ⟨⟨(digest_recovers _).isPlain, (flag_recovers _).isPlain, (counter_recovers _).isPlain,
        (counter_recovers _).isPlain, trivial⟩, hcontract.arePlainMembers_member _⟩,
      hlogs.isPlain, trivial⟩
  · have hfields : fields?
        ["txHash", "succeeded", "gasUsed", "cumulativeGasUsed", "contractAddress", "logs"] 0
        (Receipt.form.write receipt) =
          some [some (digest.write receipt.txHash), some (flag.write receipt.succeeded),
            some (counter.write receipt.gasUsed), some (counter.write receipt.cumulativeGasUsed),
            receipt.contractAddress.map address.write,
            some ((Form.list LogRecord.form).write receipt.logs)] :=
      fields?_members (by rcases receipt with ⟨_, _, _, _, _ | _, _⟩ <;> rfl) rfl (by decide) 0
    generalize Receipt.form.write receipt = v at hfields ⊢
    simp [Receipt.form, hfields, (digest_recovers _).required?, (flag_recovers _).required?,
      (counter_recovers _).required?, hcontract.defaulted?_optional, hlogs.required?]

/-! ### Settings -/

theorem optional_counter_recovers (n? : Option UInt64) : (Form.optional .counter).Recovers n? :=
  optional_recovers (fun n _ => counter_recovers n) nofun

theorem optional_text_recovers (s? : Option String) : (Form.optional .text).Recovers s? :=
  optional_recovers (fun s _ => text_recovers s) nofun

theorem ChainConfig.form_recovers (chain : ChainConfig) : ChainConfig.form.Recovers chain where
  isPlain := ⟨(counter_recovers _).isPlain, (optional_counter_recovers _).isPlain,
    (optional_counter_recovers _).isPlain, trivial⟩
  read? := by
    have hfields : fields? ["chain_id", "homestead_block", "eip158_block"] 3
        (ChainConfig.form.write chain) =
          some [some (counter.write chain.chainId),
            some ((Form.optional .counter).write chain.homesteadBlock),
            some ((Form.optional .counter).write chain.eip158Block)] :=
      fields?_members (by rfl) rfl (by decide) 3
    generalize ChainConfig.form.write chain = v at hfields ⊢
    simp [ChainConfig.form, hfields, (counter_recovers _).defaulted?,
      (optional_counter_recovers _).defaulted?]

theorem MachineConfig.form_recovers (config : MachineConfig) :
    MachineConfig.form.Recovers config where
  isPlain := ⟨(flag_recovers _).isPlain, (counter_recovers _).isPlain, trivial⟩
  read? := by
    have hfields : fields? ["no_recursion", "max_call_depth"] 2 (MachineConfig.form.write config) =
        some [some (flag.write config.noRecursion), some (counter.write config.maxCallDepth)] :=
      fields?_members (by rfl) rfl (by decide) 2
    generalize MachineConfig.form.write config = v at hfields ⊢
    simp [MachineConfig.form, hfields, (flag_recovers _).defaulted?,
      (counter_recovers _).defaulted?]

theorem WatchConfig.form_recovers (config : WatchConfig) : WatchConfig.form.Recovers config where
  isPlain := ⟨(flag_recovers _).isPlain, (text_recovers _).isPlain, (counter_recovers _).isPlain,
    (optional_text_recovers _).isPlain, trivial⟩
  read? := by
    have hfields : fields? ["enabled", "endpoint", "timeout_secs", "jsonl_path"] 4
        (WatchConfig.form.write config) =
          some [some (flag.write config.isEnabled), some (text.write config.endpoint),
            some (counter.write config.timeoutSecs),
            some ((Form.optional .text).write config.jsonlPath)] :=
      fields?_members (by rfl) rfl (by decide) 4
    generalize WatchConfig.form.write config = v at hfields ⊢
    simp [WatchConfig.form, hfields, (flag_recovers _).defaulted?, (text_recovers _).defaulted?,
      (counter_recovers _).defaulted?, (optional_text_recovers _).defaulted?]

/-! ### Failures and results -/

theorem StoreFault.form_recovers {cause : StoreFault}
    (h : ∀ id, cause = .unknownSnapshot id → id < Nat.pow 2 64) :
    StoreFault.form.Recovers cause := by
  cases cause with
  | unknownSnapshot id =>
    -- the number is written as a counter is
    have hid : (UInt64.ofNat id).toNat = id := UInt64.toNat_ofNat_of_lt' (h id rfl)
    have hcounter := counter_recovers (UInt64.ofNat id)
    have hwrite : counter.write (UInt64.ofNat id) = .number id :=
      congrArg (fun n : Nat => Json.number n) hid
    have hread : counter.read? (.number id) = some (UInt64.ofNat id) := hwrite ▸ hcounter.read?
    refine ⟨⟨hwrite ▸ hcounter.isPlain, trivial⟩, ?_⟩
    simp [StoreFault.form, alternative?, hread, hid]
  | other reason => exact ⟨(text_recovers _).isPlain_carrying _, rfl⟩

theorem InternalFault.form_recovers (cause : InternalFault) :
    InternalFault.form.Recovers cause := by
  cases cause with
  | overflow | underflow => exact ⟨trivial, rfl⟩
  | panic | other => exact ⟨(text_recovers _).isPlain_carrying _, rfl⟩

theorem Halt.form_recovers (cause : Halt) : Halt.form.Recovers cause := by
  cases cause with
  | outOfGas | invalidOpcode | stackUnderflow | stackOverflow | cancelled => exact ⟨trivial, rfl⟩
  | precompile => exact ⟨(text_recovers _).isPlain_carrying _, rfl⟩

theorem Failure.form_recovers {failure : Failure}
    (h : ∀ id, failure = .store (.unknownSnapshot id) → id < Nat.pow 2 64) :
    Failure.form.Recovers failure := by
  cases failure with
  | internal cause =>
    have hcause := InternalFault.form_recovers cause
    exact ⟨hcause.isPlain_carrying _, by
      simp [Failure.form, alternative?_carrying, hcause.read?]⟩
  | store cause =>
    have hcause := StoreFault.form_recovers fun id hid => h id (congrArg Failure.store hid)
    exact ⟨hcause.isPlain_carrying _, by
      simp [Failure.form, alternative?_carrying, hcause.read?]⟩
  | halt cause =>
    have hcause := Halt.form_recovers cause
    exact ⟨hcause.isPlain_carrying _, by
      simp [Failure.form, alternative?_carrying, hcause.read?]⟩
  | reverted | depthExceeded | insufficientBalance | codeStoreOutOfGas => exact ⟨trivial, rfl⟩

example : Failure.form.print (.store (.unknownSnapshot 9)) =
    "\x7b\"Database\":\x7b\"InvalidSnapshot\":9\x7d\x7d" := by
  decide +kernel

theorem Result.form_recovers {result : Result}
    (h : ∀ id, result = .reverted (.store (.unknownSnapshot id)) → id < Nat.pow 2 64) :
    Result.form.Recovers result := by
  cases result with
  | success => exact ⟨trivial, rfl⟩
  | reverted failure =>
    have hfailure := Failure.form_recovers fun id hid => h id (congrArg Result.reverted hid)
    exact ⟨hfailure.isPlain_carrying _, by
      simp [Result.form, alternative?_carrying, hfailure.read?]⟩

end CallWatch
