import PageImages.Convert.Page
import PageImages.Report

/-!
**Converting a document.**

A document is left out, fails as a whole, or is gone through page by page.  A page that fails does
not keep the others from being converted.

Main definitions:

* `Event` — what an observer of a conversion is told;
* `shouldSkip` — whether a document is left out;
* `pageRuns` — the runs of the pages of a document, one after the other;
* `DocumentRun`, `convertDocument` — what converting a document does.
-/

set_option autoImplicit false

namespace PageImages

/-- What an observer of a conversion is told. -/
inductive Event where
  /-- A batch of so many documents starts. -/
  | batchStarted (count : Nat)
  /-- The document of an index starts. -/
  | documentStarted (index : Nat) (path : Path)
  /-- A page has its image; pages are counted from one. -/
  | pageDone (page limit : Nat)
  /-- A page failed. -/
  | pageFailed (limit : Nat) (error : PageError)
  /-- A document is done. -/
  | documentDone (report : DocumentReport)

/-- Tells an observer, if there is one. -/
def tell (observed : Bool) (event : Event) : List Event :=
  if observed then [event] else []

/-! ### Leaving a document out -/

/-- Whether a document is left out, because its first page image exists. -/
def shouldSkip (fs : FileSystem) (settings : Settings) (source : Path) : Bool :=
  !settings.overwrite && settings.skipIfExists
    && fs.hasEntry (outputPath source 0 settings.outputFolder settings.format)

/-- What is said about a document that is left out. -/
def skipNotices (fs : FileSystem) (settings : Settings) (source : Path) : List Notice :=
  if shouldSkip fs settings source then [.documentSkipped source.displayName] else []

/-! ### The pages -/

/-- The runs of `count` pages from the index `index` on, each in the file system and after the calls
that the one before it left. -/
def pageRuns (settings : Settings) (document : Document) (source : Path) :
    (count index : Nat) → FileSystem → (past : List Call) → List PageRun
  | 0, _, _, _ => []
  | count + 1, index, fs, past =>
    let run := convertPage fs past settings document source index
    run :: pageRuns settings document source count (index + 1) (fs.applyAll run.effects)
      (past ++ run.calls)

/-- What happens with a page of the document `name`; a failure is told at the end. -/
def PageRun.wholeCourse (name : String) (run : PageRun) : Course :=
  match run.outcome with
  | .ok _ => run.course
  | .error e => run.course ++ .ofNotices [.pageFailed e name]

/-- What an observer is told about the page of an index. -/
def PageRun.event (limit : Nat) (run : PageRun) (index : Nat) : Event :=
  match run.outcome with
  | .ok _ => .pageDone (index + 1) limit
  | .error e => .pageFailed limit e

/-! ### The document -/

/-- What converting a document does. -/
structure DocumentRun where
  /-- What became of the document. -/
  report : DocumentReport
  /-- What happened. -/
  course : Course
  /-- The calls to the engine. -/
  calls : List Call
  /-- What an observer was told. -/
  events : List Event

namespace DocumentRun

/-- The steps in the file system. -/
def effects (run : DocumentRun) : List Effect := run.course.effects

/-- What was said. -/
def notices (run : DocumentRun) : List Notice := run.course.notices

/-- The run of a document whose conversion ends before its first page. -/
def ended (report : DocumentReport) (notices : List Notice) (calls : List Call) : DocumentRun where
  report := report
  course := .ofNotices notices
  calls := calls
  events := []

/-- The run with its document opened before it and closed after it. -/
def enclosed (source : Path) (run : DocumentRun) : DocumentRun :=
  { run with calls := .opened source :: (run.calls ++ [.closed]) }

end DocumentRun

/-- What is said at the end about a document whose pages have been gone through. -/
def DocumentReport.closing (name : String) (r : DocumentReport) : List Notice :=
  match r.status with
  | .success => [.documentDone name r.pagesConverted r.pagesTotal]
  | .partly => [.documentPartly name r.pagesConverted r.pagesTotal r.pagesFailed]
  | .failed => [.documentFailed name]
  | .skipped => []

/-- Goes through the pages of an open document. -/
def convertPages (fs : FileSystem) (past : List Call) (settings : Settings) (document : Document)
    (source : Path) (observed : Bool) : DocumentRun :=
  let name := source.displayName
  let limit := settings.pageLimit document.pages
  let runs := pageRuns settings document source limit 0 fs past
  let report := DocumentReport.ofOutcomes source document.pages (runs.map PageRun.outcome)
  { report := report
    course := .ofNotices [.documentStarted name limit document.pages]
      ++ runs.flatMap (PageRun.wholeCourse name) ++ .ofNotices (report.closing name)
    calls := runs.flatMap PageRun.calls
    events := runs.zipIdx.flatMap fun (run, index) => tell observed (run.event limit index) }

/-- What is said about a document that could not be opened. -/
def OpenError.notice (name : String) : OpenError → Notice
  | .passwordProtected => .documentEncrypted name
  | .corrupt detail => .documentCorrupt name (.corrupt detail)
  | .failed detail => .documentUnopened name (.failed detail)

/-- Converts a document, after earlier calls to the engine. -/
def convertDocument (fs : FileSystem) (past : List Call) (settings : Settings) (engine : Engine)
    (source : Path) (observed : Bool) : DocumentRun :=
  let name := source.displayName
  if shouldSkip fs settings source then
    .ended (.skipped source) (skipNotices fs settings source) []
  else
    match engine.openDocument past source with
    | .error e => .ended (.failed source e.message) [e.notice name] [.opened source]
    | .ok document =>
      if document.encrypted then
        .ended (.failed source OpenError.passwordProtected.message) [.documentEncrypted name]
          [.opened source, .closed]
      else
        (convertPages fs (past ++ [.opened source]) settings document source observed).enclosed
          source

end PageImages
