import PageImages.Json.Reader
import PageImages.Json.Value
import PageImages.Report

/-!
**Reports as JSON.**

A report is written as an object with its fields in the order of their declaration, a page error as
an object with the kind of the error as its only key.  A path can only be written if it is a text.
The readers take back what is written, with members in any order.

Main definitions:

* `PageError.toJson?`, `DocumentReport.toJson?`, `BatchReport.toJson?` — the JSON values;
* `BatchReport.pretty?` — the text of a report;
* `PageError.reader`, `DocumentReport.reader`, `BatchReport.reader` — the readers.
-/

set_option autoImplicit false

namespace PageImages

/-- A path as a JSON value. -/
def Path.toJson? (p : Path) : Option Json.Value :=
  p.text?.map .string

/-! ### Writing -/

/-- A page error as a JSON value. -/
def PageError.toJson? : PageError → Option Json.Value
  | .renderFailed page detail =>
    some (.object [("RenderFailed", .object [("page", .number page), ("detail", .string detail)])])
  | .emptyCrop page width height =>
    some (.object [("EmptyCrop",
      .object [("page", .number page), ("width", .number width), ("height", .number height)])])
  | .encodeFailed page path detail => do
    let path ← path.toJson?
    some (.object [("EncodeFailed",
      .object [("page", .number page), ("path", path), ("detail", .string detail)])])

/-- A document's report as a JSON value. -/
def DocumentReport.toJson? (r : DocumentReport) : Option Json.Value := do
  let path ← r.path.toJson?
  let files ← r.outputFiles.mapM Path.toJson?
  let errors ← r.pageErrors.mapM PageError.toJson?
  some (.object [
    ("pdf_path", path),
    ("status", .string r.status.name),
    ("pages_total", .number r.pagesTotal),
    ("pages_converted", .number r.pagesConverted),
    ("pages_failed", .number r.pagesFailed),
    ("error_message", match r.errorMessage with | some m => .string m | none => .null),
    ("output_files", .list files),
    ("page_errors", .list errors)])

/-- A batch's report as a JSON value. -/
def BatchReport.toJson? (b : BatchReport) : Option Json.Value := do
  let results ← b.results.mapM DocumentReport.toJson?
  some (.object [
    ("total_files", .number b.totalFiles),
    ("success_count", .number b.successCount),
    ("partial_count", .number b.partialCount),
    ("failed_count", .number b.failedCount),
    ("skipped_count", .number b.skippedCount),
    ("results", .list results)])

/-- The text of a batch's report. -/
def BatchReport.pretty? (b : BatchReport) : Option String :=
  b.toJson?.map Json.Value.pretty

/-- Why a report cannot be written. -/
def unwritablePath : String := "path contains invalid UTF-8 characters"

/-! ### Reading -/

/-- A field that an object must have. -/
def neededField {σ α : Type} (name : String) (r : Json.Reader α) (set : α → σ → σ) :
    Json.Field σ :=
  { name := name, optional := false, read := r.map set }

namespace PageError

/-- The form of a page error of one kind, which is collected in `initial`. -/
def shapeOf (kind : String) (fields : List (Json.Field PageError)) (initial : PageError) :
    Json.Shape PageError where
  title := "struct variant PageError::" ++ kind
  fields := fields
  initial := initial
  lenient := false

/-- The page error with another page. -/
def setPage (page : Nat) : PageError → PageError
  | .renderFailed _ detail => .renderFailed page detail
  | .emptyCrop _ width height => .emptyCrop page width height
  | .encodeFailed _ path detail => .encodeFailed page path detail

/-- The page error with another detail. -/
def setDetail (detail : String) : PageError → PageError
  | .renderFailed page _ => .renderFailed page detail
  | .encodeFailed page path _ => .encodeFailed page path detail
  | e => e

/-- The page error with another path. -/
def setPath (path : Path) : PageError → PageError
  | .encodeFailed page _ detail => .encodeFailed page path detail
  | e => e

/-- The page error with another width. -/
def setWidth (width : Nat) : PageError → PageError
  | .emptyCrop page _ height => .emptyCrop page width height
  | e => e

/-- The page error with another height. -/
def setHeight (height : Nat) : PageError → PageError
  | .emptyCrop page width _ => .emptyCrop page width height
  | e => e

/-- The form of a rendering error. -/
def renderShape : Json.Shape PageError :=
  shapeOf "RenderFailed"
    [neededField "page" Json.count setPage, neededField "detail" Json.text setDetail]
    (.renderFailed 0 "")

/-- The form of the error of an empty crop. -/
def cropShape : Json.Shape PageError :=
  shapeOf "EmptyCrop"
    [neededField "page" Json.count setPage, neededField "width" Json.word32 setWidth,
      neededField "height" Json.word32 setHeight]
    (.emptyCrop 0 0 0)

/-- The form of an encoding error. -/
def encodeShape : Json.Shape PageError :=
  shapeOf "EncodeFailed"
    [neededField "page" Json.count setPage, neededField "path" Json.path setPath,
      neededField "detail" Json.text setDetail]
    (.encodeFailed 0 Path.empty "")

/-- The reader of the errors of a kind. -/
def readerOfKind? (kind : String) : Option (Json.Reader PageError) :=
  if kind = "RenderFailed" then some (Json.record renderShape)
  else if kind = "EmptyCrop" then some (Json.record cropShape)
  else if kind = "EncodeFailed" then some (Json.record encodeShape)
  else none

/-- Reads a page error. -/
def reader : Json.Reader PageError :=
  Json.tagged ["RenderFailed", "EmptyCrop", "EncodeFailed"] readerOfKind?

end PageError

/-- The status of a name. -/
def Status.ofName? (name : String) : Option Status :=
  if name = "success" then some .success
  else if name = "partial" then some .partly
  else if name = "failed" then some .failed
  else if name = "skipped" then some .skipped
  else none

/-- Reads a status. -/
def Status.reader : Json.Reader Status :=
  Json.choice ["success", "partial", "failed", "skipped"] Status.ofName?

/-- The form of a document's report. -/
def DocumentReport.shape : Json.Shape DocumentReport where
  title := "struct ConversionResult"
  fields :=
    [neededField "pdf_path" Json.path fun p r => { r with path := p },
      neededField "status" Status.reader fun s r => { r with status := s },
      neededField "pages_total" Json.count fun n r => { r with pagesTotal := n },
      neededField "pages_converted" Json.count fun n r => { r with pagesConverted := n },
      neededField "pages_failed" Json.count fun n r => { r with pagesFailed := n },
      { name := "error_message", optional := true,
        read := (Json.optional Json.text).map fun m r => { r with errorMessage := m } },
      neededField "output_files" (Json.list Json.path) fun ps r => { r with outputFiles := ps },
      neededField "page_errors" (Json.list PageError.reader)
        fun es r => { r with pageErrors := es }]
  initial := DocumentReport.new Path.empty
  lenient := false

/-- Reads a document's report. -/
def DocumentReport.reader : Json.Reader DocumentReport := Json.record DocumentReport.shape

/-- The form of a batch's report. -/
def BatchReport.shape : Json.Shape BatchReport where
  title := "struct BatchResult"
  fields :=
    [neededField "total_files" Json.count fun n b => { b with totalFiles := n },
      neededField "success_count" Json.count fun n b => { b with successCount := n },
      neededField "partial_count" Json.count fun n b => { b with partialCount := n },
      neededField "failed_count" Json.count fun n b => { b with failedCount := n },
      neededField "skipped_count" Json.count fun n b => { b with skippedCount := n },
      neededField "results" (Json.list DocumentReport.reader) fun rs b => { b with results := rs }]
  initial := BatchReport.empty
  lenient := false

/-- Reads a batch's report.  The counts are taken as they are written. -/
def BatchReport.reader : Json.Reader BatchReport := Json.record BatchReport.shape

end PageImages
