import PageImages.Storage.FileSystem

/-!
**Listing a file system.**

All that lies below the working directory is listed by its relative path, in the order of the octets
of the paths.  Links are not followed.
-/

set_option autoImplicit false

namespace PageImages

/-- The path that leads down to a location. -/
def Location.toPath (location : Location) : Path :=
  ⟨Path.glue Path.slash location.reverse⟩

/-- All that lies below the working directory, by relative path. -/
def FileSystem.listing (fs : FileSystem) : List (Path × Node) :=
  ((fs.below fs.here).map fun (location, node) => (location.toPath, node)).mergeSort
    fun a b => decide (a.1.octets ≤ b.1.octets)

end PageImages
