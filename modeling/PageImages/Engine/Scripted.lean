import PageImages.Engine
import PageImages.Image.Pattern

/-!
**An engine with documents described in advance.**

The documents are looked up by file name, and their pages are pattern images.  The description says
which documents cannot be opened and which pages cannot be rendered.
-/

set_option autoImplicit false

namespace PageImages

/-- The description of a document. -/
structure Script where
  /-- Why the document cannot be opened. -/
  openError : Option OpenError
  /-- The number of pages. -/
  pages : Nat
  /-- Whether the document is locked by a password. -/
  encrypted : Bool
  /-- The pages that cannot be rendered, by index. -/
  failures : List (Nat × PageError)
  /-- The width and height of pages. -/
  size : Nat × Nat
  /-- The width and height of pages of another size, by index. -/
  sizes : List (Nat × (Nat × Nat))

namespace Script

/-- The image of a page. -/
def page (s : Script) (index : Nat) (space : Colorspace) : Image :=
  let (width, height) := (s.sizes.lookup index).getD s.size
  (Image.pattern width height index).flatten space

/-- The open document. -/
def document (s : Script) : Document where
  pages := s.pages
  encrypted := s.encrypted
  render := fun _ index _ space =>
    match s.failures.lookup index with
    | some error => .error error
    | none => .ok (s.page index space)

end Script

/-- The engine of described documents, by file name. -/
def Engine.scripted (scripts : List (String × Script)) : Engine where
  openDocument := fun _ path =>
    let name := (path.fileName?.map Utf8.lossy).getD ""
    match scripts.lookup name with
    | none => .error (.failed ("no such document: " ++ name))
    | some script =>
      match script.openError with
      | some error => .error error
      | none => .ok script.document

end PageImages
