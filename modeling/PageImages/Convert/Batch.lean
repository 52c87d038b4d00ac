import PageImages.Convert.Document
import PageImages.Fatal

/-!
**Converting a batch.**

The documents of a batch are the files of the input folder whose extension is `pdf` in letters of any
case, in the order of their names.  They are converted one after the other.

Main definitions:

* `selectDocuments`, `findDocuments` — the documents of a folder;
* `documentRuns` — the runs of documents, one after the other;
* `BatchRun`, `convertBatch` — what converting a batch does.
-/

set_option autoImplicit false

namespace PageImages

/-! ### The documents of a folder -/

/-- An octet with a letter in lower case. -/
def lowerOctet (b : UInt8) : UInt8 :=
  if 0x41 ≤ b && b ≤ 0x5A then b + 0x20 else b

/-- The extension of documents. -/
def documentExtension : Name := [0x70, 0x64, 0x66]

/-- Whether a name is that of a document. -/
def isDocumentName (name : Name) : Bool :=
  match (Path.splitName name).2 with
  | some extension => extension.map lowerOctet = documentExtension
  | none => false

/-- The names of documents among the names of a folder, in increasing order.  `isFile` says which
names are those of files. -/
def selectDocuments (isFile : Name → Bool) (names : List Name) : List Name :=
  (names.filter fun name => isDocumentName name && isFile name).mergeSort

/-- The documents of a folder, and what is said about a folder that cannot be listed. -/
def findDocuments (fs : FileSystem) (folder : Path) : List Notice × List Path :=
  match fs.list folder with
  | .error e => ([.inputUnlistable folder e], [])
  | .ok names =>
    ([], (selectDocuments (fun name => fs.isFile (folder.join ⟨name⟩)) names).map
      fun name => folder.join ⟨name⟩)

/-! ### The documents, one after the other -/

/-- The runs of documents, each in the file system and after the calls that the one before it left.
When the batch is to end with the first document that fails, no run follows that one. -/
def documentRuns (settings : Settings) (engine : Engine) (observed : Bool) :
    FileSystem → (past : List Call) → List Path → List DocumentRun
  | _, _, [] => []
  | fs, past, source :: sources =>
    let run := convertDocument fs past settings engine source observed
    if settings.failFast && run.report.status = .failed then [run]
    else run :: documentRuns settings engine observed (fs.applyAll run.effects)
      (past ++ run.calls) sources

/-- What an observer is told about the document of an index. -/
def DocumentRun.allEvents (observed : Bool) (run : DocumentRun) (index : Nat) : List Event :=
  tell observed (.documentStarted index run.report.path) ++ run.events
    ++ tell observed (.documentDone run.report)

/-- Whether the batch ended with a document that failed. -/
def stoppedEarly (settings : Settings) (runs : List DocumentRun) : Bool :=
  settings.failFast && runs.any fun run => run.report.status = .failed

/-! ### The batch -/

/-- What converting a batch does. -/
structure BatchRun where
  /-- What became of the batch, or why it could not start. -/
  outcome : Except Fatal BatchReport
  /-- What happened. -/
  course : Course
  /-- The calls to the engine. -/
  calls : List Call
  /-- What an observer was told. -/
  events : List Event

/-- The steps in the file system. -/
def BatchRun.effects (run : BatchRun) : List Effect := run.course.effects

/-- What was said. -/
def BatchRun.notices (run : BatchRun) : List Notice := run.course.notices

/-- The run of a batch that ends before its first document. -/
def BatchRun.ended (outcome : Except Fatal BatchReport) (effects : List Effect)
    (notices : List Notice) : BatchRun where
  outcome := outcome
  course := .ofEffects effects ++ .ofNotices notices
  calls := []
  events := []

/-- The run of a batch, from the steps that made its output folder and the runs of its documents, of
which `count` were found. -/
def BatchRun.ofDocuments (settings : Settings) (observed : Bool) (made : List Effect)
    (count : Nat) (runs : List DocumentRun) : BatchRun where
  outcome := .ok (BatchReport.ofResults (runs.map DocumentRun.report))
  course := .ofEffects made ++ .ofNotices [.documentsFound count]
    ++ runs.flatMap DocumentRun.course
    ++ .ofNotices (if stoppedEarly settings runs then [.batchStopped] else [])
    ++ .ofNotices [.batchDone runs.length]
  calls := runs.flatMap DocumentRun.calls
  events := tell observed (.batchStarted count)
    ++ runs.zipIdx.flatMap fun (run, index) => run.allEvents observed index

/-- Converts the documents of the input folder. -/
def convertBatch (fs : FileSystem) (settings : Settings) (engine : Engine) (observed : Bool) :
    BatchRun :=
  if !fs.isDirectory settings.inputFolder then
    .ended (.ok .empty) [] [.inputMissing settings.inputFolder]
  else
    match fs.createDirectories settings.outputFolder with
    | (made, .error e) => .ended (.error (.outputFolder settings.outputFolder e)) made []
    | (made, .ok ()) =>
      let ready := fs.applyAll made
      let (unlistable, documents) := findDocuments ready settings.inputFolder
      if documents.isEmpty then
        .ended (.ok .empty) made (unlistable ++ [.noDocuments settings.inputFolder])
      else
        .ofDocuments settings observed made documents.length
          (documentRuns settings engine observed ready [] documents)

end PageImages
