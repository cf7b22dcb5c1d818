import CallWatch.Proofs.Json.Canonical
import CallWatch.Proofs.Wire.Records
import CallWatch.Wire.CallEvent
import CallWatch.Wire.Report

/-!
# Every wire form reads back what it writes

The text of a value is read as that value (`wire_parse?_print`).

An event of the call log carries its tag among its members, so it is taken apart before its fields
are looked for (`CallEvent.recovers_of_fields`).  A report may hold any JSON value as its call log;
that value is read in canonical form, which is its own if it is sorted, and as nothing if it is
`null` (`Report.defaulted?_tracer`).
-/

namespace CallWatch

open Form

/-! ### The call log -/

namespace CallEvent

/-- The tag of a record that is written in front of its members is found. -/
theorem untag?_tagged {tag : String} {rest : List (String × Json)}
    (h : ∀ m ∈ rest, m.1 ≠ "type") :
    untag? (.object (("type", .string tag) :: rest)) = some (tag, .object rest) := by
  have hothers : rest.filter (·.1 ≠ "type") = rest :=
    List.filter_eq_self.2 fun m hm => by simpa using h m hm
  have htag : ((("type", Json.string tag) :: rest).filter (·.1 = "type")).map (·.2) =
      [.string tag] := by
    rw [List.filter_cons_of_pos (by simp), filter_name_eq_nil h]
    rfl
  rw [untag?, htag, List.filter_cons_of_neg (by simp), hothers]
  rfl

/-- **An event is recovered if its fields are**, by the tag that stands in front of them. -/
theorem recovers_of_fields {event : CallEvent} {tag : String} {names : List String}
    {values : List (Option Json)}
    (hwrite : form.write event = .object (("type", .string tag) :: members names values))
    (hlength : names.length = values.length) (hnodup : ("type" :: names).Nodup)
    (hplain : Json.ArePlainMembers (members names values))
    (hdepth : Json.depthMembers (members names values) = 0)
    (hread : ∀ record, (∀ spare, fields? names spare record = some values) →
      (match (tag, record) with
        | ("call", record) => readOpening? .call record
        | ("callCode", record) => readOpening? .callCode record
        | ("delegateCall", record) => readDelegateCall? record
        | ("create", record) => readCreate? record
        | ("close", record) => readClose? record
        | _ => none) = some event) :
    form.Recovers event := by
  obtain ⟨htype, hnodup⟩ := List.nodup_cons.1 hnodup
  -- the whole value is looked at before its tag is known
  have hreadable : (form.write event).isReadable = true :=
    Json.isReadable_of_isPlain (by rw [hwrite]; exact ⟨trivial, hplain⟩)
  have hshallow : (form.write event).depth ≤ maxDepth := by
    simp [hwrite, Json.depth, Json.depthMembers, hdepth, maxDepth]
  have huntag : untag? (form.write event) = some (tag, .object (members names values)) := by
    rw [hwrite]
    exact untag?_tagged fun m hm heq => htype (heq ▸ mem_names_of_mem_members hm)
  refine ⟨by rw [hwrite]; exact ⟨trivial, hplain⟩, ?_⟩
  show (if _ then _ else _) = _
  rw [if_pos ⟨hreadable, hshallow⟩, huntag]
  exact hread _ fun spare => fields?_members rfl hlength hnodup spare

/-- The names of the fields of an event that starts a frame with a value. -/
def openingNames : List String := ["from", "to", "value", "gas", "input", "depth"]

section Opening

variable (caller target : Address) (value : Word) (gas : UInt64) (input : Bytes) (depth : UInt64)

/-- The fields of an event that starts a frame with a value. -/
def openingValues : List (Option Json) :=
  [some (address.write caller), some (address.write target), some (decimal.write value),
    some (counter.write gas), some (bytes.write input), some (counter.write depth)]

theorem arePlainMembers_openingValues :
    Json.ArePlainMembers
      (members openingNames (openingValues caller target value gas input depth)) :=
  ⟨(address_recovers _).isPlain, (address_recovers _).isPlain, (decimal_recovers _).isPlain,
    (counter_recovers _).isPlain, (bytes_recovers _).isPlain, (counter_recovers _).isPlain, trivial⟩

theorem readOpening?_openingValues
    (make : (caller target : Address) → Word → UInt64 → Bytes → UInt64 → CallEvent) {record : Json}
    (hfields : fields? openingNames 0 record =
      some (openingValues caller target value gas input depth)) :
    readOpening? make record = some (make caller target value gas input depth) := by
  simp only [openingNames, openingValues] at hfields
  simp [readOpening?, hfields, (address_recovers _).required?, (decimal_recovers _).required?,
    (counter_recovers _).required?, (bytes_recovers _).required?]

end Opening

theorem form_recovers (event : CallEvent) : form.Recovers event := by
  cases event with
  | call caller target value gas input depth =>
    have hwrite : form.write (.call caller target value gas input depth) =
        .object (("type", .string "call") ::
          members openingNames (openingValues caller target value gas input depth)) := rfl
    exact recovers_of_fields hwrite rfl (by decide) (arePlainMembers_openingValues ..) rfl
      fun record hfields => readOpening?_openingValues _ _ _ _ _ _ .call (hfields 0)
  | callCode caller target value gas input depth =>
    have hwrite : form.write (.callCode caller target value gas input depth) =
        .object (("type", .string "callCode") ::
          members openingNames (openingValues caller target value gas input depth)) := rfl
    exact recovers_of_fields hwrite rfl (by decide) (arePlainMembers_openingValues ..) rfl
      fun record hfields => readOpening?_openingValues _ _ _ _ _ _ .callCode (hfields 0)
  | delegateCall caller target gas input depth =>
    have hwrite : form.write (.delegateCall caller target gas input depth) =
        .object (("type", .string "delegateCall") :: members
          ["from", "to", "gas", "input", "depth"]
          [some (address.write caller), some (address.write target), some (counter.write gas),
            some (bytes.write input), some (counter.write depth)]) := rfl
    refine recovers_of_fields hwrite rfl (by decide)
      ⟨(address_recovers _).isPlain, (address_recovers _).isPlain, (counter_recovers _).isPlain,
        (bytes_recovers _).isPlain, (counter_recovers _).isPlain, trivial⟩ rfl
      fun record hfields => ?_
    simp [readDelegateCall?, hfields, (address_recovers _).required?,
      (counter_recovers _).required?, (bytes_recovers _).required?]
  | create caller address value gas depth =>
    have hwrite : form.write (.create caller address value gas depth) =
        .object (("type", .string "create") :: members
          ["from", "address", "value", "gas", "depth"]
          [some (Form.address.write caller), some (Form.address.write address),
            some (decimal.write value), some (counter.write gas),
            some (counter.write depth)]) := rfl
    refine recovers_of_fields hwrite rfl (by decide)
      ⟨(address_recovers _).isPlain, (address_recovers _).isPlain, (decimal_recovers _).isPlain,
        (counter_recovers _).isPlain, (counter_recovers _).isPlain, trivial⟩ rfl
      fun record hfields => ?_
    simp [readCreate?, hfields, (address_recovers _).required?, (decimal_recovers _).required?,
      (counter_recovers _).required?]
  | close gasLeft depth failure =>
    have hfailure := optional_text_recovers failure
    have hwrite : form.write (.close gasLeft depth failure) =
        .object (("type", .string "close") :: members ["gasLeft", "depth", "error"]
          [some (counter.write gasLeft), some (counter.write depth),
            failure.map text.write]) := by
      cases failure <;> rfl
    refine recovers_of_fields hwrite rfl (by decide) ?_ (by cases failure <;> rfl)
      fun record hfields => ?_
    · have herror := hfailure.arePlainMembers_member "error"
      cases failure <;> exact ⟨(counter_recovers _).isPlain, (counter_recovers _).isPlain, herror⟩
    · simp [readClose?, hfields, (counter_recovers _).required?, hfailure.defaulted?_optional]

end CallEvent

/-! ### Reports -/

/-- The call log of a report as it is read back: `null` stands for its absence. -/
def Report.rereadTracer : Option Json → Option Json
  | some .null => none
  | tracer? => tracer?

/-- A sorted value that does not nest too deeply is read back inside a report, unless it is
`null`. -/
theorem Report.defaulted?_tracer {tracer? : Option Json}
    (h : ∀ v ∈ tracer?, v.IsPlain ∧ v.IsSorted ∧ v.depth ≤ 126) :
    Form.defaulted? (.optional Json.form) none tracer? = some (Report.rereadTracer tracer?) := by
  cases tracer? with
  | none => rfl
  | some v =>
    obtain ⟨hplain, hsorted, hdepth⟩ := h v rfl
    have hread : Json.form.read? v = some v := by
      show (if _ then _ else _) = _
      rw [if_pos ⟨Json.isReadable_of_isPlain hplain, hdepth⟩, Json.canonical_of_isSorted hsorted]
    cases v with
    | null => rfl
    | _ => exact congrArg (Option.map some) hread

theorem Report.isPlain_write {report : Report} (h : ∀ v ∈ report.tracer, v.IsPlain) :
    (Report.form.write report).IsPlain := by
  have htrace := list_recovers fun line (_ : line ∈ report.trace) => text_recovers line
  refine arePlainMembers_append.2 ⟨arePlainMembers_append.2
    ⟨⟨htrace.isPlain, (digest_recovers _).isPlain, (wordMap_recovers _).isPlain,
      (wordMap_recovers _).isPlain, (decimal_recovers _).isPlain, (decimal_recovers _).isPlain,
      (Receipt.form_recovers _).isPlain, trivial⟩, ?_⟩, (flag_recovers _).isPlain, trivial⟩
  cases htracer : report.tracer with
  | none => trivial
  | some v => exact ⟨h v htracer, trivial⟩

theorem Report.read?_write {report : Report}
    (h : ∀ v ∈ report.tracer, v.IsPlain ∧ v.IsSorted ∧ v.depth ≤ 126) :
    Report.form.read? (Report.form.write report) =
      some { report with tracer := Report.rereadTracer report.tracer } := by
  have htrace := list_recovers fun line (_ : line ∈ report.trace) => text_recovers line
  have hfields : fields? ["trace", "hash", "storage_new", "storage_old", "balance_new",
      "balance_old", "receipt", "tracer", "hasThrow"] 0 (Report.form.write report) =
        some [some ((Form.list .text).write report.trace), some (digest.write report.hash),
          some (wordMap.write report.storageNew), some (wordMap.write report.storageOld),
          some (decimal.write report.balanceNew), some (decimal.write report.balanceOld),
          some (Receipt.form.write report.receipt), report.tracer,
          some (flag.write report.hasThrow)] :=
    fields?_members (by rcases report with ⟨_, _, _, _, _, _, _, _ | _, _⟩ <;> rfl) rfl
      (by decide) 0
  generalize Report.form.write report = v at hfields ⊢
  simp [Report.form, hfields, htrace.required?, (digest_recovers _).required?,
    (wordMap_recovers _).required?, (decimal_recovers _).required?,
    (Receipt.form_recovers _).required?, Report.defaulted?_tracer h, (flag_recovers _).required?]

/-- **The text of a report is read as that report**, without a call log if that is `null`. -/
theorem Report.parse?_print {report : Report}
    (h : ∀ v ∈ report.tracer, v.IsPlain ∧ v.IsSorted ∧ v.depth ≤ 126) :
    Report.form.parse? (Report.form.print report) =
      some { report with tracer := Report.rereadTracer report.tracer } := by
  have hplain := Report.isPlain_write fun v hv => (h v hv).1
  rw [Form.parse?, Form.print, Json.parse?_render hplain, Option.bind_some, Report.read?_write h]

/-! ### The round trip -/

/-- **Every wire form reads back what it writes.**  A snapshot number in a failure is a counter.
The call log of a report may be any value whose numbers are integers of 64 bits, in which the names
of the members of each object ascend, and which does not nest too deeply; if it is `null`, the
report is read back without one. -/
theorem wire_parse?_print :
    (∀ tx, Transaction.form.parse? (Transaction.form.print tx) = some tx) ∧
    (∀ receipt, Receipt.form.parse? (Receipt.form.print receipt) = some receipt) ∧
    (∀ chain, ChainConfig.form.parse? (ChainConfig.form.print chain) = some chain) ∧
    (∀ config, MachineConfig.form.parse? (MachineConfig.form.print config) = some config) ∧
    (∀ config, WatchConfig.form.parse? (WatchConfig.form.print config) = some config) ∧
    (∀ event, CallEvent.form.parse? (CallEvent.form.print event) = some event) ∧
    (∀ result, (∀ id, result = .reverted (.store (.unknownSnapshot id)) → id < Nat.pow 2 64) →
      Result.form.parse? (Result.form.print result) = some result) ∧
    (∀ failure, (∀ id, failure = .store (.unknownSnapshot id) → id < Nat.pow 2 64) →
      Failure.form.parse? (Failure.form.print failure) = some failure) ∧
    ∀ report : Report,
      (∀ v ∈ report.tracer, v.IsPlain ∧ v.IsSorted ∧ v.depth ≤ 126) →
      Report.form.parse? (Report.form.print report) =
        some { report with tracer := Report.rereadTracer report.tracer } := by
  refine ⟨fun tx => ?_, fun receipt => ?_, fun chain => ?_, fun config => ?_, fun config => ?_,
    fun event => ?_, fun result hresult => ?_, fun failure hfailure => ?_,
    fun report hreport => ?_⟩
  · exact (Transaction.form_recovers tx).parse?_print
  · exact (Receipt.form_recovers receipt).parse?_print
  · exact (ChainConfig.form_recovers chain).parse?_print
  · exact (MachineConfig.form_recovers config).parse?_print
  · exact (WatchConfig.form_recovers config).parse?_print
  · exact (CallEvent.form_recovers event).parse?_print
  · exact (Result.form_recovers hresult).parse?_print
  · exact (Failure.form_recovers hfailure).parse?_print
  · exact Report.parse?_print hreport

/-- A report with line breaks and quotes in its trace and a call log that holds an object. -/
def Report.quoting : Report where
  trace := ["say \"when\"\n", "\\ \t è"]
  hash := 7
  storageNew := .ofList [((1 : Word), (2 : Word)), (3, 0)]
  storageOld := .ofList [((1 : Word), (0 : Word))]
  balanceNew := 100
  balanceOld := 99
  receipt := {
    txHash := 7
    succeeded := true
    gasUsed := 21000
    cumulativeGasUsed := 42000
    contractAddress := some 5
    logs := [{ address := 5, topics := [1], data := [0xff] }] }
  tracer := some (.array [.object [("a", .number (-3)), ("b", .array [.null, .string "\r"])]])
  hasThrow := true

/-- A failure with the number of a snapshot, and the report above with and without its call log. -/
theorem wire_parse?_print_quoting :
    Result.form.parse? (Result.form.print (.reverted (.store (.unknownSnapshot 9)))) =
      some (.reverted (.store (.unknownSnapshot 9))) ∧
    Failure.form.parse? (Failure.form.print (.store (.unknownSnapshot 9))) =
      some (.store (.unknownSnapshot 9)) ∧
    Report.form.parse? (Report.form.print Report.quoting) = some Report.quoting ∧
    Report.form.parse? (Report.form.print { Report.quoting with tracer := some .null }) =
      some { Report.quoting with tracer := none } := by
  obtain ⟨-, -, -, -, -, -, hresult, hfailure, hreport⟩ := wire_parse?_print
  refine ⟨hresult _ ?_, hfailure _ ?_, hreport _ ?_, hreport _ ?_⟩
  · rintro id ⟨⟩
    decide
  · rintro id ⟨⟩
    decide
  · rintro v ⟨⟩
    refine ⟨?_, ?_, by decide⟩
    · exact ⟨⟨⟨by decide, by decide⟩, ⟨trivial, trivial, trivial⟩, trivial⟩, trivial⟩
    · exact ⟨⟨by decide, trivial, ⟨trivial, trivial, trivial⟩, trivial⟩, trivial⟩
  · rintro v ⟨⟩
    exact ⟨trivial, trivial, by decide⟩

end CallWatch
