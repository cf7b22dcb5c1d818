import CallWatch.Proofs.Json.Printing
import CallWatch.Proofs.Wire.RoundTrip
import CallWatch.Watch.Sink
import Mathlib.Data.List.Induction
import Mathlib.Tactic.Common

/-!
# A file of reports is read line by line

The text of a report holds no line break (`Report.newline_not_mem_print`), and a file takes up one
text behind another, each with a newline (`Outlet.deliverEach_file`).  So the lines of the file are
the texts of the reports (`JsonLines.lines_ofLines`), and **each line is read as the report that it
was written for** (`Outlet.deliverEach_lines`).
-/

namespace CallWatch

/-! ### Lines -/

namespace JsonLines

/-- The parts of a text between its newlines are its lines and what is left behind the last. -/
theorem splitOn_eq_split (cs : List Char) :
    cs.splitOn '\n' = (split cs).1 ++ [(split cs).2] := by
  induction cs with
  | nil => rfl
  | cons c rest ih =>
    rw [List.splitOn_cons_eq_if_modifyHead, ih, split]
    by_cases hc : c = '\n'
    · rw [if_pos (beq_iff_eq.2 hc)]
      simp only [if_pos hc, List.cons_append]
    · rw [if_neg (mt beq_iff_eq.1 hc)]
      simp only [if_neg hc]
      -- the character belongs to the first line, or to what is left if there is none
      cases (split rest).1 <;> rfl

/-- The content of a file that lines were appended to. -/
def ofLines (lines : List String) : String :=
  lines.foldl append ""

theorem ofLines_concat (lines : List String) (line : String) :
    ofLines (lines ++ [line]) = append (ofLines lines) line := by
  rw [ofLines, List.foldl_append]
  rfl

/-- Every line is followed by a newline. -/
theorem toList_ofLines (lines : List String) :
    (ofLines lines).toList = lines.flatMap (·.toList ++ ['\n']) := by
  induction lines using List.reverseRecOn with
  | nil => rfl
  | append_singleton lines line ih =>
    rw [ofLines_concat, append, String.toList_append, String.toList_append, ih,
      List.flatMap_append, List.flatMap_singleton, List.append_assoc]
    rfl

theorem getLast?_ofLines {lines : List String} (hne : lines ≠ []) :
    (ofLines lines).toList.getLast? = some '\n' := by
  rw [← List.dropLast_append_getLast hne, ofLines_concat, append, String.toList_append]
  exact List.getLast?_concat

/-- Between the newlines of the file stand the lines, and nothing is left behind the last. -/
theorem splitOn_ofLines {lines : List String} (hlines : ∀ line ∈ lines, '\n' ∉ line.toList) :
    (ofLines lines).toList.splitOn '\n' = lines.map String.toList ++ [[]] := by
  rw [toList_ofLines]
  induction lines with
  | nil => rfl
  | cons line lines ih =>
    rw [List.forall_mem_cons] at hlines
    rw [List.flatMap_cons, List.append_assoc, List.singleton_append,
      List.splitOn_append_cons_self_of_not_mem hlines.1, ih hlines.2]
    rfl

/-- **The lines of a file are those that were appended**, as long as they have no line breaks. -/
theorem lines_ofLines {lines : List String} (hlines : ∀ line ∈ lines, '\n' ∉ line.toList) :
    JsonLines.lines (ofLines lines) = lines := by
  have hsplit := (splitOn_eq_split _).symm.trans (splitOn_ofLines hlines)
  rw [JsonLines.lines, (List.append_inj' hsplit rfl).1, List.map_map]
  exact List.map_id'' (fun _ => String.ofList_toList) lines

end JsonLines

/-! ### Reports -/

theorem Report.newline_not_mem_print {report : Report} (h : ∀ v ∈ report.tracer, v.IsPlain) :
    '\n' ∉ (Report.form.print report).toList := by
  rw [Form.print, Json.render, String.toList_ofList]
  exact (Json.noControl_chars (Report.isPlain_write h)).newline_not_mem

/-! ### Deliveries to a file -/

namespace Outlet

/-- Delivers reports one after another. -/
def deliverEach (reports : List Report) (outlet : Outlet) : Outlet :=
  reports.foldl (fun outlet report => (outlet.deliver report).2) outlet

/-- A file takes up one line with every report. -/
theorem deliver_ofLines (report : Report) (lines : List String) :
    (deliver report (.file (some (JsonLines.ofLines lines)))).2 =
      .file (some (JsonLines.ofLines (lines ++ [Report.form.print report]))) := by
  rw [JsonLines.ofLines_concat]
  rfl

theorem deliverEach_ofLines (reports : List Report) (lines : List String) :
    deliverEach reports (.file (some (JsonLines.ofLines lines))) =
      .file (some (JsonLines.ofLines (lines ++ reports.map Report.form.print))) := by
  induction reports generalizing lines with
  | nil => rw [List.map_nil, List.append_nil]; rfl
  | cons report reports ih =>
    rw [deliverEach, List.foldl_cons, deliver_ofLines, ← deliverEach, ih, List.append_assoc,
      List.map_cons, List.singleton_append]

/-- Whether the file is not there yet or is there without content, the first report starts it. -/
theorem deliverEach_file {reports : List Report} (hne : reports ≠ []) {start : Option String}
    (hstart : start.getD "" = "") :
    deliverEach reports (.file start) =
      .file (some (JsonLines.ofLines (reports.map Report.form.print))) := by
  obtain ⟨report, reports, rfl⟩ := List.exists_cons_of_ne_nil hne
  have hfirst : (deliver report (.file start)).2 = (deliver report (.file (some ""))).2 := by
    rw [deliver, hstart]
    rfl
  rw [deliverEach, List.foldl_cons, hfirst]
  exact deliverEach_ofLines (report :: reports) []

/-- **A file of reports is read line by line.**  After any number of deliveries to a new file it
ends with a newline, its lines are the texts of the reports in order, and each line is read as the
report that it was written for, without a call log if that is `null`.  The trace of a report may
hold any characters, and so may the strings in its call log; the numbers of the call log are
integers of 64 bits, the names of the members of each of its objects ascend, and it does not nest
too deeply. -/
theorem deliverEach_lines {reports : List Report} (hne : reports ≠ [])
    (htracer : ∀ report ∈ reports, ∀ v ∈ report.tracer,
      v.IsPlain ∧ v.IsSorted ∧ v.depth ≤ 126)
    (start : Option String) (hstart : start.getD "" = "") :
    ∃ content, deliverEach reports (.file start) = .file (some content) ∧
      content.toList.getLast? = some '\n' ∧
      content.toList.splitOn '\n' =
        reports.map (fun report => (Report.form.print report).toList) ++ [[]] ∧
      JsonLines.lines content = reports.map Report.form.print ∧
      (JsonLines.lines content).map Report.form.parse? =
        reports.map fun report =>
          some { report with tracer := Report.rereadTracer report.tracer } := by
  have hlines : ∀ line ∈ reports.map Report.form.print, '\n' ∉ line.toList :=
    List.forall_mem_map.2 fun report hreport =>
      Report.newline_not_mem_print fun v hv => (htracer report hreport v hv).1
  refine ⟨_, deliverEach_file hne hstart, ?ends, ?parts, JsonLines.lines_ofLines hlines, ?read⟩
  case ends => exact JsonLines.getLast?_ofLines (mt List.map_eq_nil_iff.1 hne)
  case parts => rw [JsonLines.splitOn_ofLines hlines, List.map_map]; rfl
  case read =>
    rw [JsonLines.lines_ofLines hlines, List.map_map]
    exact List.map_congr_left fun report hreport => Report.parse?_print (htracer report hreport)

/-- A report with line breaks in its trace and its call log, and the same without a call log. -/
theorem deliverEach_lines_quoting :
    ∃ content,
      deliverEach [Report.quoting, { Report.quoting with tracer := some .null }] (.file none) =
        .file (some content) ∧
      (JsonLines.lines content).map Report.form.parse? =
        [some Report.quoting, some { Report.quoting with tracer := none }] := by
  have htracer : ∀ report ∈ [Report.quoting, { Report.quoting with tracer := some .null }],
      ∀ v ∈ report.tracer, v.IsPlain ∧ v.IsSorted ∧ v.depth ≤ 126 := by
    rw [List.forall_mem_cons, List.forall_mem_singleton]
    constructor
    · rintro v ⟨⟩
      refine ⟨?_, ?_, by decide⟩
      · exact ⟨⟨⟨by decide, by decide⟩, ⟨trivial, trivial, trivial⟩, trivial⟩, trivial⟩
      · exact ⟨⟨by decide, trivial, ⟨trivial, trivial, trivial⟩, trivial⟩, trivial⟩
    · rintro v ⟨⟩
      exact ⟨trivial, trivial, by decide⟩
  obtain ⟨content, hfile, -, -, -, hread⟩ :=
    deliverEach_lines (List.cons_ne_nil _ _) htracer none rfl
  exact ⟨content, hfile, hread⟩

end Outlet

end CallWatch
