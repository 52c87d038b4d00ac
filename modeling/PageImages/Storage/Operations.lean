import PageImages.Storage.Resolve

/-!
**File-system operations.**

An operation looks at the file system and either is refused or has effects.  Operations of one step
give the step; making a directory with all directories above it gives a list of steps.

Main definitions:

* `FileSystem.readText` — the text of a file;
* `FileSystem.list` — the names in a directory;
* `FileSystem.makeDirectory`, `FileSystem.createDirectories` — making directories;
* `FileSystem.createFile`, `FileSystem.openLog` — opening files for writing;
* `FileSystem.rename`, `FileSystem.unlink` — moving and removing entries.
-/

set_option autoImplicit false

namespace PageImages.FileSystem

/-! ### Reading -/

/-- The text of a file. -/
def readText (fs : FileSystem) (path : Path) : Except OsError String := do
  match ← fs.stat path with
  | (_, .file content) =>
    match content.octets?.bind Utf8.decode? with
    | some text => .ok text
    | none => .error .notText
  | _ => .error .isDirectory

/-- The names of the entries of a directory. -/
def list (fs : FileSystem) (path : Path) : Except OsError (List Name) := do
  match ← fs.stat path with
  | (location, .directory) => .ok (fs.children location)
  | _ => .error .notDirectory

/-! ### Directories -/

/-- Makes a directory. -/
def makeDirectory (fs : FileSystem) (path : Path) : Except OsError Effect := do
  match ← fs.slot path with
  | .unnamed => .error .alreadyExists
  | .named place =>
    match place.node? with
    | some _ => .error .alreadyExists
    | none => .ok (.makeDirectory place.location)

/-- Makes a directory of which all directories above exist; one that is there already will do. -/
def ensureDirectory (fs : FileSystem) (path : Path) : List Effect × Except OsError Unit :=
  match fs.makeDirectory path with
  | .ok effect => ([effect], .ok ())
  | .error e => ([], if fs.isDirectory path then .ok () else .error e)

/-- Makes a directory and those above it that are missing; `depth` bounds their number. -/
def createDirectoriesWith (fs : FileSystem) :
    (depth : Nat) → Path → List Effect × Except OsError Unit
  | 0, _ => ([], .error .notFound)
  | depth + 1, path =>
    if path.octets.isEmpty then ([], .ok ())
    else
      match fs.makeDirectory path with
      | .ok effect => ([effect], .ok ())
      | .error .notFound =>
        match path.parent? with
        | none => ([], .error .notFound)
        | some parent =>
          match createDirectoriesWith fs depth parent with
          | (effects, .error e) => (effects, .error e)
          | (effects, .ok ()) =>
            let (more, outcome) := (fs.applyAll effects).ensureDirectory path
            (effects ++ more, outcome)
      | .error e => ([], if fs.isDirectory path then .ok () else .error e)

/-- Makes a directory and those above it that are missing. -/
def createDirectories (fs : FileSystem) (path : Path) : List Effect × Except OsError Unit :=
  fs.createDirectoriesWith (path.octets.length + 1) path

/-! ### Files -/

/-- The location at which a file is opened for writing, and whether the file is there. -/
def openForWriting (fs : FileSystem) (path : Path) : Except OsError (Location × Bool) := do
  let place ← fs.resolveForWriting path
  match place.node? with
  | some .directory => .error .isDirectory
  | some _ => .ok (place.location, true)
  | none => .ok (place.location, false)

/-- Makes an empty file, or cuts off the file that is there. -/
def createFile (fs : FileSystem) (path : Path) : Except OsError Location :=
  (fs.openForWriting path).map Prod.fst

/-- Opens a file to append to it, and makes it if it is missing. -/
def openLog (fs : FileSystem) (path : Path) : Except OsError (Location × List Effect) := do
  let (location, present) ← fs.openForWriting path
  .ok (location, if present then [] else [.create location])

/-- Writes a file. -/
def writeFile (fs : FileSystem) (path : Path) (content : Content) : Except OsError Effect := do
  .ok (.write (← fs.createFile path) content)

/-- Makes a symbolic link. -/
def makeLink (fs : FileSystem) (path target : Path) : Except OsError Effect := do
  match ← fs.slot path with
  | .unnamed => .error .alreadyExists
  | .named place =>
    match place.node? with
    | some _ => .error .alreadyExists
    | none => if place.slash then .error .notFound else .ok (.makeLink place.location target)

/-! ### Moving and removing -/

/-- Moves the entry at `source`, which is no directory, to `target`. -/
def renameEntry (source target : Place) : Except OsError Effect :=
  if source.slash || target.slash then .error .notDirectory
  else if target.node? = some .directory then .error .isDirectory
  else .ok (.move source.location target.location)

/-- Moves the directory at `source` to `target`. -/
def renameDirectory (fs : FileSystem) (source target : Place) : Except OsError Effect :=
  if source.location = target.location then .ok (.move source.location target.location)
  else if target.location.isWithin source.location then .error .invalidArgument
  else
    match target.node? with
    | none => .ok (.moveTree source.location target.location)
    | some .directory =>
      if (fs.children target.location).isEmpty then
        .ok (.moveTree source.location target.location)
      else .error .notEmpty
    | some _ => .error .notDirectory

/-- Gives an entry another path. -/
def rename (fs : FileSystem) (source target : Path) : Except OsError Effect := do
  match ← fs.slot source, ← fs.slot target with
  | .named source, .named target =>
    match source.node? with
    | none => .error .notFound
    | some .directory => fs.renameDirectory source target
    | some _ => renameEntry source target
  | _, _ => .error .busy

/-- Removes a file or a link. -/
def unlink (fs : FileSystem) (path : Path) : Except OsError Effect := do
  match ← fs.slot path with
  | .unnamed => .error .isDirectory
  | .named place =>
    match place.node? with
    | none => .error .notFound
    | some .directory => .error .isDirectory
    | some _ => if place.slash then .error .notDirectory else .ok (.remove place.location)

/-- Removes an entry with all below it. -/
def removeTree (fs : FileSystem) (path : Path) : Except OsError Effect := do
  match ← fs.slot path with
  | .unnamed => .error .invalidArgument
  | .named place =>
    match place.node? with
    | none => .error .notFound
    | some _ => .ok (.removeTree place.location)

end PageImages.FileSystem
