import PageImages.Storage.FileSystem

/-!
**From paths to entries.**

A path is followed name by name, from the root or from the working directory, through directories and
symbolic links.  Its last name need not exist.  A path that a name is made, moved or removed at is
followed up to the directory that holds the name, and the name itself is taken as it is.

Main definitions:

* `Place` — where a path leads;
* `FileSystem.resolve` — where a path leads, links followed to the end;
* `FileSystem.resolveForWriting` — where a file is written that a path leads to;
* `FileSystem.slot` — the name that a path stands for in its directory;
* `FileSystem.hasEntry`, `FileSystem.isDirectory`, `FileSystem.isFile` — what is there.
-/

set_option autoImplicit false

namespace PageImages

/-- Where a path leads. -/
structure Place where
  /-- The location. -/
  location : Location
  /-- What is there. -/
  node? : Option Node
  /-- Whether a slash follows a name that is no directory. -/
  slash : Bool

/-- The greatest length of a name. -/
def longestName : Nat := 255

/-- The least length of a path that is too long. -/
def tooLongPath : Nat := 4096

/-- The greatest number of links on the way. -/
def mostLinks : Nat := 40

namespace FileSystem

/-! ### Following names -/

/-- Follows names from a directory.  At a link, `onLink` goes on from where the link starts, with the
names of its target and those that are left.  With `writing`, a slash behind the last name asks for a
directory, whatever the name stands for. -/
def walkWith (fs : FileSystem) (writing : Bool)
    (onLink : Location → List Octets → Except OsError Place) :
    Location → List Octets → Except OsError Place
  | here, [] => .ok ⟨here, some .directory, false⟩
  | here, piece :: rest =>
    let last := rest.all List.isEmpty
    if Path.isIdle piece then walkWith fs writing onLink here rest
    else if piece = [Path.dot, Path.dot] then walkWith fs writing onLink here.tail rest
    else if writing && last && !rest.isEmpty then .error .isDirectory
    else if longestName < piece.length then .error .nameTooLong
    else
      match fs.node? (piece :: here) with
      | some .directory => walkWith fs writing onLink (piece :: here) rest
      | some (.file content) =>
        if last then .ok ⟨piece :: here, some (.file content), !rest.isEmpty⟩
        else .error .notDirectory
      | some (.link target) =>
        onLink (if target.isAbsolute then [] else here)
          (Path.pieces Path.slash target.octets ++ rest)
      | none =>
        if last then .ok ⟨piece :: here, none, !rest.isEmpty⟩ else .error .notFound

/-- Follows names from a directory, through at most `links` links. -/
def walk (fs : FileSystem) (writing : Bool) :
    (links : Nat) → Location → List Octets → Except OsError Place
  | 0 => walkWith fs writing fun _ _ => .error .tooManyLinks
  | links + 1 => walkWith fs writing (walk fs writing links)

/-- Refuses paths that name nothing. -/
def checkPath (path : Path) : Except OsError Unit :=
  if path.octets.contains 0 then .error .zeroInPath
  else if tooLongPath ≤ path.octets.length then .error .nameTooLong
  else if path.octets.isEmpty then .error .notFound
  else .ok ()

/-- The directory from which a path starts. -/
def start (fs : FileSystem) (path : Path) : Location :=
  if path.isAbsolute then [] else fs.here

/-- Where a path leads when links are followed to the end. -/
def resolve (fs : FileSystem) (path : Path) : Except OsError Place := do
  checkPath path
  fs.walk false mostLinks (fs.start path) (Path.pieces Path.slash path.octets)

/-- Where a file is written that a path leads to when links are followed to the end. -/
def resolveForWriting (fs : FileSystem) (path : Path) : Except OsError Place := do
  checkPath path
  fs.walk true mostLinks (fs.start path) (Path.pieces Path.slash path.octets)

/-! ### The last name -/

/-- What a path stands for in the directory that holds it. -/
inductive Slot where
  /-- A name, which may exist or not; a link is not followed. -/
  | named (place : Place)
  /-- A directory that the path reaches without a last name. -/
  | unnamed

/-- The directory to which names lead. -/
def directoryAt (fs : FileSystem) (start : Location) (pieces : List Octets) :
    Except OsError Location :=
  (fs.walk false mostLinks start (pieces ++ [[Path.dot]])).map Place.location

/-- What a path stands for in the directory that holds it. -/
def slot (fs : FileSystem) (path : Path) : Except OsError Slot := do
  checkPath path
  let pieces := Path.pieces Path.slash path.octets
  match pieces.reverse.dropWhile List.isEmpty with
  | [] => .ok .unnamed
  | last :: before => do
    let directory ← fs.directoryAt (fs.start path) before.reverse
    if last = [Path.dot] || last = [Path.dot, Path.dot] then .ok .unnamed
    else if longestName < last.length then .error .nameTooLong
    else
      let location := last :: directory
      let slash := (pieces.getLast?.map List.isEmpty).getD false
      .ok (.named ⟨location, fs.node? location, slash⟩)

/-! ### What is there -/

/-- What a path leads to when links are followed to the end, and where it is. -/
def stat (fs : FileSystem) (path : Path) : Except OsError (Location × Node) := do
  let place ← fs.resolve path
  match place.node? with
  | none => .error .notFound
  | some .directory => .ok (place.location, .directory)
  | some node => if place.slash then .error .notDirectory else .ok (place.location, node)

/-- Whether a path leads to an entry. -/
def hasEntry (fs : FileSystem) (path : Path) : Bool :=
  match fs.stat path with
  | .ok _ => true
  | .error _ => false

/-- Whether a path leads to a directory. -/
def isDirectory (fs : FileSystem) (path : Path) : Bool :=
  match fs.stat path with
  | .ok (_, .directory) => true
  | _ => false

/-- Whether a path leads to a file. -/
def isFile (fs : FileSystem) (path : Path) : Bool :=
  match fs.stat path with
  | .ok (_, .file _) => true
  | _ => false

end FileSystem

end PageImages
