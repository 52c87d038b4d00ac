import PageImages.Proofs.Batch
import PageImages.Report.Summary

/-!
**Counters, exit code and summary of a batch agree.**

A report keeps a counter for each status beside the list of its results, and what is made of it
reads one or the other: the exit code goes by the counter of failures, the summary by the counter
and by the list.  They agree because adding a result changes the list and the right counters
together.

Main definitions:

* `BatchReport.counter` — the counter of a status;
* `BatchReport.Tallied` — the counters agree with the list of results;
* `headerLines`, `failureEntry` — the lines of a summary.

Main results:

* `BatchReport.Tallied.add`, `BatchReport.tallied_ofResults` — adding a result keeps the counters
  right, and so does adding any number of them;
* `BatchReport.exitCode_ofResults` — the exit code tells whether a document has failed;
* `BatchReport.Tallied.summary_eq` — the summary of a report with right counters, line by line;
* `BatchReport.ofResults_accounts` — **all that is told of a batch is told of its results**.
-/

set_option autoImplicit false

namespace PageImages

namespace BatchReport

/-! ### Counters -/

/-- The counter of a status. -/
def counter (b : BatchReport) : Status → Nat
  | .success => b.successCount
  | .partly => b.partialCount
  | .failed => b.failedCount
  | .skipped => b.skippedCount

/-- The counters of a report agree with its results. -/
structure Tallied (b : BatchReport) : Prop where
  /-- All results are counted. -/
  total : b.totalFiles = b.results.length
  /-- The counter of a status counts the results of that status. -/
  counters : ∀ status, b.counter status = b.results.countP fun r => r.status = status

theorem counter_add (b : BatchReport) (r : DocumentReport) (status : Status) :
    (b.add r).counter status = b.counter status + if r.status = status then 1 else 0 := by
  cases status <;> rfl

theorem tallied_empty : empty.Tallied :=
  ⟨rfl, fun status => by cases status <;> rfl⟩

/-- **Adding a result keeps the counters right.** -/
theorem Tallied.add {b : BatchReport} (h : b.Tallied) (r : DocumentReport) : (b.add r).Tallied := by
  have hresults : (b.add r).results = b.results ++ [r] := rfl
  constructor
  · rw [hresults, List.length_append, ← h.total]
    rfl
  · intro status
    rw [counter_add, h.counters, hresults, List.countP_append, List.countP_singleton]
    simp only [decide_eq_true_eq]

theorem Tallied.foldl {b : BatchReport} (h : b.Tallied) (rest : List DocumentReport) :
    (rest.foldl BatchReport.add b).Tallied := by
  induction rest generalizing b with
  | nil => exact h
  | cons r rest ih => exact ih (h.add r)

theorem tallied_ofResults (results : List DocumentReport) : (ofResults results).Tallied :=
  tallied_empty.foldl results

/-- Every result has one of the four statuses. -/
theorem length_eq_countP (results : List DocumentReport) : results.length
    = results.countP (fun r => r.status = .success) + results.countP (fun r => r.status = .partly)
      + results.countP (fun r => r.status = .failed)
      + results.countP (fun r => r.status = .skipped) := by
  induction results with
  | nil => rfl
  | cons r results ih =>
      rw [List.length_cons, ih]
      simp only [List.countP_cons]
      cases r.status <;> simp <;> omega

theorem Tallied.sum {b : BatchReport} (h : b.Tallied) : b.totalFiles
    = b.successCount + b.partialCount + b.failedCount + b.skippedCount := by
  rw [h.total, length_eq_countP, ← h.counters, ← h.counters, ← h.counters, ← h.counters]
  rfl

/-! ### Failures -/

theorem Tallied.length_failed {b : BatchReport} (h : b.Tallied) :
    b.failed.length = b.failedCount := by
  rw [failed, ← List.countP_eq_length_filter]
  exact (h.counters .failed).symm

theorem Tallied.hasFailures_iff {b : BatchReport} (h : b.Tallied) :
    b.hasFailures = true ↔ ∃ r ∈ b.results, r.status = .failed := by
  have hcount : b.failedCount = b.results.countP fun r => r.status = .failed := h.counters .failed
  rw [hasFailures, hcount, decide_eq_true_eq, List.countP_pos_iff]
  simp only [decide_eq_true_eq]

theorem exitCode_eq_one_iff (b : BatchReport) : b.exitCode = 1 ↔ b.hasFailures = true := by
  rw [exitCode]
  cases b.hasFailures <;> decide

theorem exitCode_cases (b : BatchReport) : b.exitCode = 0 ∨ b.exitCode = 1 := by
  rw [exitCode]
  cases b.hasFailures <;> decide

/-- The exit code of a batch tells whether a document has failed. -/
theorem exitCode_ofResults (results : List DocumentReport) :
    ((ofResults results).exitCode = 0 ↔ ∀ r ∈ results, r.status ≠ .failed) ∧
      ((ofResults results).exitCode = 0 ∨ (ofResults results).exitCode = 1) := by
  have hone := ((ofResults results).exitCode_eq_one_iff).trans
    (tallied_ofResults results).hasFailures_iff
  rw [results_ofResults] at hone
  have hcases := (ofResults results).exitCode_cases
  refine ⟨?_, hcases⟩
  constructor
  · intro hzero r hr hfailed
    rw [hone.2 ⟨r, hr, hfailed⟩] at hzero
    cases hzero
  · intro hall
    refine hcases.resolve_right fun h => ?_
    obtain ⟨r, hr, hfailed⟩ := hone.1 h
    exact hall r hr hfailed

/-! ### The summary -/

/-- A text of lines, each with a line end behind it. -/
def textOfLines (lines : List String) : String :=
  String.join (lines.map (· ++ "\n"))

/-- The lines of a summary that give the number of documents, of all and of each status. -/
def headerLines (total : Nat) (number : Status → Nat) : List String :=
  ["", rule, "CONVERSION SUMMARY", rule,
    "Total Files:    " ++ toString total,
    "  ✓ Success:    " ++ toString (number .success),
    "  ⚠ Partial:    " ++ toString (number .partly),
    "  ✗ Failed:     " ++ toString (number .failed),
    "  ⊘ Skipped:    " ++ toString (number .skipped),
    rule]

/-- The line of a document that failed, with its name and the reason. -/
def failureEntry (r : DocumentReport) : String :=
  "  - " ++ r.displayName ++ ": " ++ r.errorMessage.getD "unknown error"

theorem textOfLines_append (lines more : List String) :
    textOfLines (lines ++ more) = textOfLines lines ++ textOfLines more := by
  rw [textOfLines, textOfLines, textOfLines, List.map_append, String.join_append]

theorem table_eq (b : BatchReport) :
    b.table = textOfLines (headerLines b.totalFiles b.counter) := by
  have htitle : "\nCONVERSION SUMMARY\n" = "\n" ++ "CONVERSION SUMMARY" ++ "\n" := by decide
  have htotal : "\nTotal Files:    " = "\n" ++ "Total Files:    " := by decide
  have hsuccess : "\n  ✓ Success:    " = "\n" ++ "  ✓ Success:    " := by decide
  have hpartial : "\n  ⚠ Partial:    " = "\n" ++ "  ⚠ Partial:    " := by decide
  have hfailed : "\n  ✗ Failed:     " = "\n" ++ "  ✗ Failed:     " := by decide
  have hskipped : "\n  ⊘ Skipped:    " = "\n" ++ "  ⊘ Skipped:    " := by decide
  unfold table textOfLines headerLines
  simp only [counter, htitle, htotal, hsuccess, hpartial, hfailed, hskipped, List.map_cons,
    List.map_nil, String.join_cons, String.join_nil, String.append_assoc, String.append_empty,
    String.empty_append, -String.reduceAppend]

theorem failures_eq (failures : List DocumentReport) :
    "\nFailed Files:\n" ++ String.join (failures.map failureLine)
      = textOfLines ("" :: "Failed Files:" :: failures.map failureEntry) := by
  have hline : failureLine = fun r => failureEntry r ++ "\n" := rfl
  rw [textOfLines, hline, List.map_cons, List.map_cons, List.map_map, String.join_cons,
    String.join_cons, ← String.append_assoc]
  rfl

/-- **The summary of a report with right counters**, line by line. -/
theorem Tallied.summary_eq {b : BatchReport} (h : b.Tallied) :
    b.summary = textOfLines
      (headerLines b.results.length (fun status => b.results.countP fun r => r.status = status)
        ++ if ∃ r ∈ b.results, r.status = .failed then
            "" :: "Failed Files:" :: b.failed.map failureEntry
          else []) := by
  have hnumber : b.counter = fun status => b.results.countP fun r => r.status = status :=
    funext h.counters
  rw [textOfLines_append, ← h.total, ← hnumber, ← table_eq, summary]
  by_cases hfailed : ∃ r ∈ b.results, r.status = .failed
  · rw [if_pos hfailed, if_pos (h.hasFailures_iff.2 hfailed), ← failures_eq, String.append_assoc]
  · rw [if_neg hfailed, if_neg (fun hb => hfailed (h.hasFailures_iff.1 hb))]
    exact (String.append_empty).symm

/-- **All that is told of a batch is told of its results.**  After any number of results has been
added, they are listed in the order in which they were added; the counters give their number and the
numbers of those with each status, which make up the whole; the failures are those that failed, in
order, and as many as are counted; the exit code is one if and only if a result has failed; and the
summary consists of the numbers and, if and only if a result has failed, of a line for each of them,
with its name and the reason. -/
theorem ofResults_accounts (results : List DocumentReport) (n : Nat) :
    let added := results.take n
    let b := ofResults added
    let number := fun status => added.countP fun r => r.status = status
    b.results = added ∧ b.totalFiles = added.length ∧
    b.totalFiles = b.successCount + b.partialCount + b.failedCount + b.skippedCount ∧
    b.successCount = number .success ∧ b.partialCount = number .partly ∧
    b.failedCount = number .failed ∧ b.skippedCount = number .skipped ∧
    b.failed = added.filter (fun r => r.status = .failed) ∧ b.failed.length = b.failedCount ∧
    (b.exitCode = 1 ↔ ∃ r ∈ added, r.status = .failed) ∧ (b.exitCode = 0 ∨ b.exitCode = 1) ∧
    b.summary = textOfLines (headerLines added.length number
      ++ if ∃ r ∈ added, r.status = .failed then
          "" :: "Failed Files:" :: (added.filter fun r => r.status = .failed).map failureEntry
        else []) := by
  intro added b number
  have htallied : b.Tallied := tallied_ofResults added
  have hresults : b.results = added := results_ofResults added
  have hcounters : ∀ status, b.counter status = number status := by
    intro status
    rw [htallied.counters, hresults]
  have hfailed : b.failed = added.filter (fun r => r.status = .failed) := by
    rw [failed, hresults]
  have hcode := b.exitCode_eq_one_iff.trans htallied.hasFailures_iff
  have hsummary := htallied.summary_eq
  rw [hresults] at hcode hsummary
  rw [hfailed] at hsummary
  refine ⟨hresults, ?_, htallied.sum, hcounters .success, hcounters .partly, hcounters .failed,
    hcounters .skipped, hfailed, htallied.length_failed, hcode, b.exitCode_cases, hsummary⟩
  rw [htallied.total, hresults]

end BatchReport

end PageImages
