import PageImages.Failure

/-!
**Reports on documents and batches.**

A report on a document counts its pages and lists its page images and page errors; the report on a
batch lists the reports on its documents and counts them by status.

Main definitions:

* `Status`, `Status.classify` — how the conversion of a document ended;
* `DocumentReport`, `DocumentReport.record` — what became of one document, page by page;
* `BatchReport`, `BatchReport.add` — what became of a batch.
-/

set_option autoImplicit false

namespace PageImages

/-- How the conversion of a document ended. -/
inductive Status where
  /-- Every page that was to be converted has its image. -/
  | success
  /-- Some pages have their image and some failed. -/
  | partly
  /-- The document could not be read, or all its pages failed. -/
  | failed
  /-- The document was left out. -/
  | skipped
deriving DecidableEq, Repr

namespace Status

/-- The status of a document whose pages have been gone through. -/
def classify (converted failed : Nat) : Status :=
  if failed = 0 then .success else if 0 < converted then .partly else .failed

/-- The name of a status. -/
def name : Status → String
  | .success => "success"
  | .partly => "partial"
  | .failed => "failed"
  | .skipped => "skipped"

end Status

/-- What became of one document. -/
structure DocumentReport where
  /-- The path of the document. -/
  path : Path
  /-- How the conversion ended. -/
  status : Status
  /-- The number of pages of the document; zero if it was never opened. -/
  pagesTotal : Nat
  /-- The number of pages that have their image. -/
  pagesConverted : Nat
  /-- The number of pages that failed. -/
  pagesFailed : Nat
  /-- Why the document failed. -/
  errorMessage : Option String
  /-- The page images, in the order of the pages. -/
  outputFiles : List Path
  /-- The page errors, in the order of the pages. -/
  pageErrors : List PageError
deriving DecidableEq

namespace DocumentReport

/-- Why a document of which all pages failed has failed. -/
def allPagesFailed : String := "All pages failed to render"

/-- The report on a document of which no page has been looked at. -/
def new (path : Path) : DocumentReport where
  path := path
  status := .success
  pagesTotal := 0
  pagesConverted := 0
  pagesFailed := 0
  errorMessage := none
  outputFiles := []
  pageErrors := []

/-- The report on a document that was left out. -/
def skipped (path : Path) : DocumentReport :=
  { new path with status := .skipped }

/-- The report on a document that could not be read. -/
def failed (path : Path) (message : String) : DocumentReport :=
  { new path with status := .failed, errorMessage := some message }

/-- The report with what became of one more page: the path of its image, or its error. -/
def record (r : DocumentReport) : Except PageError Path → DocumentReport
  | .ok path =>
    { r with
      pagesConverted := r.pagesConverted + 1
      outputFiles := r.outputFiles ++ [path] }
  | .error e =>
    { r with
      pagesFailed := r.pagesFailed + 1
      pageErrors := r.pageErrors ++ [e] }

/-- The report on a document whose last page has been recorded: the status is told from the
counts. -/
def concluded (r : DocumentReport) : DocumentReport :=
  let status := Status.classify r.pagesConverted r.pagesFailed
  { r with
    status := status
    errorMessage := if status = .failed then some allPagesFailed else r.errorMessage }

/-- The report on a document of `total` pages, from what became of its pages one after the other. -/
def ofOutcomes (path : Path) (total : Nat) (outcomes : List (Except PageError Path)) :
    DocumentReport :=
  (outcomes.foldl record { new path with pagesTotal := total }).concluded

/-- The name of the document. -/
def displayName (r : DocumentReport) : String := r.path.displayName

end DocumentReport

/-- What became of a batch. -/
structure BatchReport where
  /-- The number of documents. -/
  totalFiles : Nat
  /-- The number of documents converted in full. -/
  successCount : Nat
  /-- The number of documents converted in part. -/
  partialCount : Nat
  /-- The number of documents that failed. -/
  failedCount : Nat
  /-- The number of documents that were left out. -/
  skippedCount : Nat
  /-- The reports on the documents, in the order of their conversion. -/
  results : List DocumentReport
deriving DecidableEq

namespace BatchReport

/-- The report on a batch without documents. -/
def empty : BatchReport := ⟨0, 0, 0, 0, 0, []⟩

/-- The report with one more document. -/
def add (b : BatchReport) (r : DocumentReport) : BatchReport :=
  { b with
    totalFiles := b.totalFiles + 1
    successCount := b.successCount + if r.status = .success then 1 else 0
    partialCount := b.partialCount + if r.status = .partly then 1 else 0
    failedCount := b.failedCount + if r.status = .failed then 1 else 0
    skippedCount := b.skippedCount + if r.status = .skipped then 1 else 0
    results := b.results ++ [r] }

/-- The report on documents in the order of their conversion. -/
def ofResults (results : List DocumentReport) : BatchReport :=
  results.foldl add empty

/-- The reports on documents that failed. -/
def failed (b : BatchReport) : List DocumentReport :=
  b.results.filter fun r => r.status = .failed

/-- Whether a document failed, by the count. -/
def hasFailures (b : BatchReport) : Bool := 0 < b.failedCount

/-- The exit code of a program that ran the batch. -/
def exitCode (b : BatchReport) : Nat := if b.hasFailures then 1 else 0

end BatchReport

end PageImages
