import PageImages.Command.Run
import PageImages.Journal.Text

/-!
**The program.**

The program takes from the machine what a run depends on, makes the run, and gives back to the
machine what the run leaves.  It is built without a library that renders documents, so that a run
ends where the engine is asked for; what it leaves on disk is its log.
-/

set_option autoImplicit false

namespace PageImages.Program

/-! ### What is on disk -/

/-- A location as a path from the root. -/
def locationText (location : Location) : String :=
  "/" ++ String.intercalate "/" (location.reverse.map Utf8.lossy)

/-- What is on disk at a path, links followed. -/
def diskNode? (path : String) : IO (Option Node) := do
  let place := (← IO.currentDir) / path
  if ← place.isDir then return some .directory
  else if ← place.pathExists then
    return some (.file (Content.ofOctets (← IO.FS.readBinFile place).toList))
  else return none

/-- Takes into a file system what is on disk along steps from a location. -/
def takeSteps (fs : FileSystem) (here : Location) : List Path.Part → IO FileSystem
  | [] => return fs
  | .up :: parts => takeSteps fs here.tail parts
  | .name name :: parts => do
    match ← diskNode? (locationText (name :: here)) with
    | some node => takeSteps (fs.insert (name :: here) node) (name :: here) parts
    | none => return fs

/-- Takes into a file system what is on disk along a path. -/
def takePath (fs : FileSystem) (path : Path) : IO FileSystem :=
  takeSteps fs (fs.start path) path.parts

/-- The file system with nothing in it but the way to the working directory. -/
def bareFileSystem (workingPath : Path) : FileSystem :=
  let names := workingPath.parts.map Path.Part.octets
  { FileSystem.empty with here := names.reverse }

/-! ### What a run depends on -/

/-- The names of the environment variables that a run asks for. -/
def variableNames : List String :=
  "RUST_LOG" :: Command.Key.all.filterMap Command.Key.environmentName?

/-- The environment variables that a run asks for. -/
def readVariables : IO (List (String × Octets)) := do
  let found ← variableNames.mapM fun name => do
    return (← IO.getEnv name).map fun value => (name, Utf8.encode value)
  return found.filterMap id

/-- The loader of a program without a library. -/
def noLibrary : Loader := Loader.library fun _ => .error "this program is built without it"

/-- The paths at which a run looks for its settings and its library. -/
def firstPaths (ctx : Command.Context) : List Path :=
  let besides := ctx.programFolder.map fun folder => folder.join Command.settingsFile
  let given := match Command.parse ctx.arguments ctx.environment with
    | .ok (.run a) => a.settings.toList ++ a.library.toList
    | _ => []
  ctx.workingPath :: Command.settingsFile :: (besides.toList ++ given)

/-- The log file that the settings of a run name. -/
def logFile? (ctx : Command.Context) : Option Path :=
  match Command.parse ctx.arguments ctx.environment with
  | .ok (.run a) =>
    (Settings.load ctx.fs (Command.settingsPath ctx a.settings)).outcome.toOption.bind
      Settings.logFile
  | _ => none

/-- All that a run with the given arguments depends on. -/
def readContext (arguments : List String) : IO Command.Context := do
  let workingPath := Path.ofString (← IO.currentDir).toString
  let programFolder := (← IO.appPath).parent.map fun folder => Path.ofString folder.toString
  let environment ← readVariables
  let bare : Command.Context :=
    { arguments := arguments.map Utf8.encode
      environment := fun name => environment.lookup name
      fs := bareFileSystem workingPath
      workingPath := workingPath
      programFolder := programFolder
      loader := noLibrary
      terminal := ← (← IO.getStderr).isTty }
  let ctx := { bare with fs := ← (firstPaths bare).foldlM takePath bare.fs }
  return { ctx with fs := ← (logFile? ctx).toList.foldlM takePath ctx.fs }

/-! ### What a run leaves -/

/-- A notice on a line of its own. -/
def noticeLine (n : Notice) : String := n.line "0" ++ "\n"

/-- A message on a line of its own. -/
def messageLine : Command.Message → String
  | .notice n => noticeLine n
  | .text s => s ++ "\n"

/-- The lines of the journal in the content of a file. -/
def loggedLines (content : Content) : String :=
  String.join (content.filterMap fun piece =>
    match piece with
    | .logged n => some (noticeLine n)
    | _ => none)

/-- Adds the lines of the journal to the files on disk that have some. -/
def writeLogs (fs : FileSystem) : IO Unit :=
  fs.entries.forM fun (location, node) => do
    match node with
    | .file content =>
      let lines := loggedLines content
      if lines ≠ "" then
        let file ← IO.FS.Handle.mk (locationText location) .append
        file.putStr lines
    | _ => return ()

end PageImages.Program

/-- Makes a run with the arguments of the command line. -/
def main (arguments : List String) : IO UInt32 := do
  let outcome := PageImages.Command.run (← PageImages.Program.readContext arguments)
  PageImages.Program.writeLogs outcome.fs
  outcome.messages.forM fun message =>
    IO.eprint (PageImages.Program.messageLine message)
  IO.print outcome.output
  return outcome.exitCode.toUInt32
