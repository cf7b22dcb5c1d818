import CallWatch.Watch.Report
import CallWatch.Wire.Transaction

/-!
# Wire form of trace reports

The call log inside a report may be any JSON value.  It is kept in canonical form; `null` stands
for its absence.
-/

namespace CallWatch

/-- Any value, in canonical form, inside a record that adds one level of nesting. -/
def Json.form : Form Json where
  write v := v
  read? v := if v.isReadable ∧ v.depth ≤ 126 then some v.canonical else none

/-- A report as a record; the call log is left out if there is none. -/
def Report.form : Form Report where
  write report := .object (
    [("trace", (Form.list .text).write report.trace),
      ("hash", Form.digest.write report.hash),
      ("storage_new", Form.wordMap.write report.storageNew),
      ("storage_old", Form.wordMap.write report.storageOld),
      ("balance_new", Form.decimal.write report.balanceNew),
      ("balance_old", Form.decimal.write report.balanceOld),
      ("receipt", Receipt.form.write report.receipt)] ++
    Form.member "tracer" Json.form report.tracer ++
    [("hasThrow", Form.flag.write report.hasThrow)])
  read? v := do
    let names := ["trace", "hash", "storage_new", "storage_old", "balance_new", "balance_old",
      "receipt", "tracer", "hasThrow"]
    let [trace, hash, storageNew, storageOld, balanceNew, balanceOld, receipt, tracer, hasThrow] ←
      Form.fields? names 0 v | none
    return {
      trace := ← Form.required? (.list .text) trace
      hash := ← Form.required? .digest hash
      storageNew := ← Form.required? .wordMap storageNew
      storageOld := ← Form.required? .wordMap storageOld
      balanceNew := ← Form.required? .decimal balanceNew
      balanceOld := ← Form.required? .decimal balanceOld
      receipt := ← Form.required? Receipt.form receipt
      tracer := ← Form.defaulted? (.optional Json.form) none tracer
      hasThrow := ← Form.required? .flag hasThrow }

end CallWatch
