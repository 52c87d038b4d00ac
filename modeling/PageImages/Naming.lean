import PageImages.Settings
import PageImages.Text.Digits

/-!
**Names of page images.**

The image of a page is named after its document and its number: the stem of the document's name, an
underscore, the number of the page in three digits at least, and the extension of the format.  While
an image is written it has the same name with `.tmp` behind it.

Main definitions:

* `pageFileName`, `outputPath` — the name and the path of a page image;
* `temporaryPath` — the path under which a file is written before it gets its name.
-/

set_option autoImplicit false

namespace PageImages

/-- The stem of a document's name as a text; empty where there is none. -/
def Path.stemText (document : Path) : List Char :=
  match document.stem? with
  | some stem => Utf8.lossyChars stem
  | none => []

/-- The name of the image of a page, for a document of the given stem.  The index of a page counts
from zero. -/
def pageFileName (stem : List Char) (index : Nat) (format : ImageFormat) : Name :=
  Utf8.encodeChars
    (stem ++ '_' :: (Digits.padded 3 (index + 1) ++ '.' :: format.extension.toList))

/-- The path of the image of a page. -/
def outputPath (document : Path) (index : Nat) (folder : Path) (format : ImageFormat) : Path :=
  folder.join ⟨pageFileName document.stemText index format⟩

/-- What is put behind the name of a file while it is written. -/
def temporarySuffix : Name := [0x2E, 0x74, 0x6D, 0x70]

/-- The path under which a file is written before it gets its name. -/
def temporaryPath (path : Path) : Path :=
  path.withFileName (path.fileName?.getD [] ++ temporarySuffix)

end PageImages
