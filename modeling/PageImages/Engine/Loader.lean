import PageImages.Engine
import PageImages.Journal
import PageImages.Storage.Resolve

/-!
**Where the engine comes from.**

A program gets its engine from a loader.  One kind of loader takes the engine from a library file,
which can be named, or found in a named directory, or searched for; another has its engine at hand.
-/

set_option autoImplicit false

namespace PageImages

/-- What hands out an engine; a library may be named. -/
structure Loader where
  /-- The engine or why there is none, and what is said on the way. -/
  load : FileSystem → (library : Option Path) → List Notice × Except String Engine

namespace Loader

/-- The loader of an engine that is at hand. -/
def resident (engine : Engine) : Loader where
  load := fun _ _ => ([], .ok engine)

/-- The name of the library file. -/
def libraryName : Path := Path.ofString "libpdfium.so"

/-- The library file that a path names: the path itself, or the file in the directory. -/
def libraryFile (fs : FileSystem) (path : Path) : Path :=
  if fs.isDirectory path then path.join libraryName else path

/-- The loader of an engine from a library file, by way of `bind`; the file is searched for if it is
not named. -/
def library (bind : Option Path → Except String Engine) : Loader where
  load := fun fs named =>
    match named with
    | none => ([], bind none)
    | some path =>
      let file := libraryFile fs path
      ([.engineLoading file],
        match bind (some file) with
        | .ok engine => .ok engine
        | .error e => .error (file.display ++ ": " ++ e))

end Loader

end PageImages
