import PageImages.Report

/-!
**The summary of a batch.**

The summary is a table of the documents by status, followed by a line for each document that failed.
-/

set_option autoImplicit false

namespace PageImages.BatchReport

/-- The line between the parts of a summary. -/
def rule : String := String.ofList (List.replicate 50 '=')

/-- The table of the documents by status. -/
def table (b : BatchReport) : String :=
  "\n" ++ rule ++ "\nCONVERSION SUMMARY\n" ++ rule
    ++ "\nTotal Files:    " ++ toString b.totalFiles
    ++ "\n  ✓ Success:    " ++ toString b.successCount
    ++ "\n  ⚠ Partial:    " ++ toString b.partialCount
    ++ "\n  ✗ Failed:     " ++ toString b.failedCount
    ++ "\n  ⊘ Skipped:    " ++ toString b.skippedCount
    ++ "\n" ++ rule ++ "\n"

/-- The line for a document that failed. -/
def failureLine (r : DocumentReport) : String :=
  "  - " ++ r.displayName ++ ": " ++ r.errorMessage.getD "unknown error" ++ "\n"

/-- The summary of a batch. -/
def summary (b : BatchReport) : String :=
  if b.hasFailures then
    b.table ++ "\nFailed Files:\n" ++ String.join (b.failed.map failureLine)
  else b.table

end PageImages.BatchReport
