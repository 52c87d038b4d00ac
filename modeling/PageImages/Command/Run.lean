import PageImages.Command.Arguments
import PageImages.Command.Screen
import PageImages.Engine.Loader
import PageImages.Journal.Filter
import PageImages.Report.Json
import PageImages.Report.Summary
import PageImages.Settings.Load

/-!
**A run of the program.**

A run reads the command line, loads settings and changes them by what is given there, opens the log
file, gets the engine, converts the batch and reports on it.  It ends early at the first of these
that fails.

Main definitions:

* `Command.Context` — all that a run depends on;
* `Command.Outcome` — what a run leaves;
* `Command.run` — the run.
-/

set_option autoImplicit false

namespace PageImages.Command

/-- The name of the program. -/
def programName : String := "pdf2img"

/-- The version of the program. -/
def programVersion : String := "0.1.0"

/-- All that a run depends on. -/
structure Context where
  /-- The arguments of the command line, without the name of the program. -/
  arguments : List Octets
  /-- The environment variables. -/
  environment : String → Option Octets
  /-- The file system. -/
  fs : FileSystem
  /-- The path of the working directory from the root. -/
  workingPath : Path
  /-- The directory of the program. -/
  programFolder : Option Path
  /-- Where the engine comes from. -/
  loader : Loader
  /-- Whether messages go to a terminal. -/
  terminal : Bool

/-- What is written as a message. -/
inductive Message where
  /-- A notice of the journal. -/
  | notice (n : Notice)
  /-- A text. -/
  | text (s : String)

/-- What a run leaves. -/
structure Outcome where
  /-- The exit code. -/
  exitCode : Nat
  /-- What was printed. -/
  output : String
  /-- What was written as messages. -/
  messages : List Message
  /-- The lines above the progress bar on a terminal. -/
  screen : List String
  /-- The file system afterwards. -/
  fs : FileSystem

/-! ### Troubles -/

/-- What ends a run early. -/
inductive Trouble where
  /-- The settings could not be loaded. -/
  | settings (error : Fatal)
  /-- The arguments make the settings invalid. -/
  | overrides (fault : Settings.Fault)
  /-- The log file could not be opened. -/
  | logFile (path : Path) (error : OsError)
  /-- There is no engine. -/
  | engine (error : Fatal)
  /-- The batch could not start. -/
  | conversion (error : Fatal)
  /-- The report cannot be written. -/
  | report

/-- A fatal error and the error behind it, in words. -/
def Trouble.causes (error : Fatal) : List String :=
  error.message :: error.cause?.toList

/-- What ended a run early, from the outside to the inside. -/
def Trouble.chain : Trouble → List String
  | .settings error => "Error loading settings" :: causes error
  | .overrides fault => "Invalid configuration" :: causes (.invalidSettings fault)
  | .logFile path error => ["Failed to open log file " ++ path.display, error.message]
  | .engine error => "Failed to initialise PDFium" :: causes error
  | .conversion error => "Conversion failed" :: causes error
  | .report => ["Failed to serialise result", unwritablePath]

/-- What ended a run early, in words. -/
def Trouble.message (t : Trouble) : String :=
  "Error: " ++ String.intercalate ": " t.chain

/-! ### Settings -/

/-- The name of the settings file. -/
def settingsFile : Path := Path.ofString "settings.json"

/-- The settings file of a run: the one that is given, or the one in the working directory, or the
one beside the program. -/
def settingsPath (ctx : Context) (given : Option Path) : Path :=
  match given with
  | some path => path
  | none =>
    if ctx.fs.hasEntry settingsFile then settingsFile
    else
      match ctx.programFolder with
      | none => settingsFile
      | some folder =>
        let beside := folder.join settingsFile
        if ctx.fs.hasEntry beside then beside else settingsFile

/-- The changes of settings that are given on the command line. -/
def overrides (a : Arguments) : List Settings.Change :=
  (a.input.map .inputFolder).toList
    ++ (a.output.map .outputFolder).toList
    ++ (a.dpi.map .dpi).toList
    ++ (a.format.map .format).toList
    ++ (a.quality.map .quality).toList
    ++ (a.colorspace.map .colorspace).toList
    ++ (if a.overwrite then [.overwrite true] else [])
    ++ (if a.failFast then [.failFast true] else [])
    ++ (a.maxPages.map .maxPages).toList

/-- The settings with what is given on the command line. -/
def applyOverrides (a : Arguments) (s : Settings) : Except Settings.Fault Settings :=
  (s.apply (overrides a)).check

/-! ### The journal -/

/-- Whether the run shows its progress. -/
def showsProgress (a : Arguments) : Bool :=
  !a.quiet && !a.noProgress && !a.json

/-- The filter of messages while settings are loaded. -/
def loadingFilter (a : Arguments) : Filter :=
  Filter.upTo (if a.quiet then .error else .warn)

/-- The filter of messages afterwards: the one in the environment, if there is one, or what the
arguments ask for. -/
def messageFilter (ctx : Context) (a : Arguments) : Filter :=
  let asked := Filter.upTo
    (if a.verbose then .debug else if a.quiet || showsProgress a then .error else .info)
  let given := (ctx.environment "RUST_LOG").filter fun text => (Utf8.decode? text).isSome
  (given.bind Filter.parse?).getD asked

/-- The notices that a filter shows, as messages. -/
def shown (filter : Filter) (notices : List Notice) : List Message :=
  (notices.filter filter.allows).map .notice

/-- A path from the root, as a text; a path that has none is shown as it is. -/
def absoluteText (ctx : Context) (path : Path) : String :=
  ((path.absolute? ctx.workingPath).getD path).display

/-- What is said when a run starts. -/
def banner (ctx : Context) (path : Path) (s : Settings) : List Notice :=
  let rule := BatchReport.rule
  ["Logging configured.", rule, programName ++ " v" ++ programVersion, rule,
    "Settings: " ++ path.display, "Input:  " ++ absoluteText ctx s.inputFolder,
    "Output: " ++ absoluteText ctx s.outputFolder,
    "DPI: " ++ toString s.dpi ++ ", Quality: " ++ toString s.quality, rule].map .banner

/-- Where an open file is after a step: it moves along with its entry, and is nowhere when its entry
is removed or replaced. -/
def trackStep (location : Option Location) : Effect → Option Location
  | .move source target =>
    location.bind fun l =>
      if l = source then some target else if l = target then none else some l
  | .remove gone => location.bind fun l => if l = gone then none else some l
  | _ => location

/-- The file system with a notice added to the open log file. -/
def appendLog (fs : FileSystem) (log : Option Location) (notice : Notice) : FileSystem :=
  match log with
  | none => fs
  | some location =>
    match fs.node? location with
    | some (.file content) => fs.insert location (.file (content ++ [.logged notice]))
    | _ => fs

/-- The file system after a course, with what was said added to the open log file as it was said. -/
def follow : FileSystem → Option Location → Course → FileSystem
  | fs, _, [] => fs
  | fs, log, .change effect :: rest => follow (fs.apply effect) (trackStep log effect) rest
  | fs, log, .notice notice :: rest => follow (appendLog fs log notice) log rest

/-! ### The stages of a run -/

/-- A run that ended early. -/
def Outcome.troubled (trouble : Trouble) (messages : List Message) (screen : List String)
    (fs : FileSystem) : Outcome where
  exitCode := 1
  output := ""
  messages := messages ++ [.text trouble.message]
  screen := screen
  fs := fs

/-- What a run prints about its batch. -/
def report (a : Arguments) (b : BatchReport) : Except Trouble String :=
  if a.json then
    match b.pretty? with
    | some text => .ok (text ++ "\n")
    | none => .error .report
  else .ok b.summary

/-- Converts the batch and reports on it, with the log file open.  `early` are the messages and
`spoken` the notices so far. -/
def convert (ctx : Context) (a : Arguments) (s : Settings) (engine : Engine) (fs : FileSystem)
    (log : Option Location) (early : List Message) (spoken : List Notice) : Outcome :=
  let batch := convertBatch fs s engine (showsProgress a)
  let course := .ofNotices spoken ++ batch.course
  let messages := early ++ shown (messageFilter ctx a) course.notices
  let screen := if ctx.terminal then screenLines "" batch.events else []
  let left := follow fs log course
  match batch.outcome with
  | .error e => .troubled (.conversion e) messages screen left
  | .ok b =>
    match report a b with
    | .error trouble => .troubled trouble messages screen left
    | .ok output =>
      { exitCode := b.exitCode, output := output, messages := messages, screen := screen, fs := left }

/-- Gets the engine and goes on, with the log file open. -/
def engage (ctx : Context) (a : Arguments) (path : Path) (s : Settings) (fs : FileSystem)
    (log : Option Location) (early : List Message) : Outcome :=
  let (loading, engine) := ctx.loader.load fs a.library
  let spoken := banner ctx path s ++ loading
  match engine with
  | .error detail =>
    .troubled (.engine (.engineUnavailable detail))
      (early ++ shown (messageFilter ctx a) spoken) [] (follow fs log (.ofNotices spoken))
  | .ok engine => convert ctx a s engine fs log early spoken

/-- Opens the log file, if there is one, and goes on. -/
def openLogs (ctx : Context) (a : Arguments) (path : Path) (s : Settings)
    (early : List Message) : Outcome :=
  match s.logFile with
  | none => engage ctx a path s ctx.fs none early
  | some file =>
    match ctx.fs.openLog file with
    | .error e => .troubled (.logFile file e) early [] ctx.fs
    | .ok (location, effects) =>
      engage ctx a path s (ctx.fs.applyAll effects) (some location) early

/-- Loads the settings and goes on. -/
def start (ctx : Context) (a : Arguments) : Outcome :=
  let path := settingsPath ctx a.settings
  let loaded := Settings.load ctx.fs path
  let early := shown (loadingFilter a) loaded.notices
  match loaded.outcome with
  | .error e => .troubled (.settings e) early [] ctx.fs
  | .ok s =>
    match applyOverrides a s with
    | .error fault => .troubled (.overrides fault) early [] ctx.fs
    | .ok s => openLogs ctx a path s early

/-! ### The run -/

/-- Help on the program. -/
def helpText : String :=
  "Batch-convert a folder of PDFs into per-page JPEG or PNG images\n\nUsage: " ++ programName
    ++ " [OPTIONS] " ++ Key.settings.shown ++ "\n\nOptions:\n"
    ++ String.join ((Key.all.filter (· ≠ .settings)).map fun key => "  " ++ key.shown ++ "\n")
    ++ "  --help\n  --version\n"

/-- A run of the program. -/
def run (ctx : Context) : Outcome :=
  match parse ctx.arguments ctx.environment with
  | .error e =>
    { exitCode := 2, output := "", messages := [.text ("error: " ++ e.message)], screen := [],
      fs := ctx.fs }
  | .ok .version =>
    { exitCode := 0, output := programName ++ " " ++ programVersion ++ "\n", messages := [],
      screen := [], fs := ctx.fs }
  | .ok .help =>
    { exitCode := 0, output := helpText, messages := [], screen := [], fs := ctx.fs }
  | .ok (.run a) => start ctx a

end PageImages.Command
