import PageImages.Path

/-!
**What can go wrong with a document or a page.**

A document that cannot be opened ends there; a page that cannot be produced leaves the other pages of
its document alone.

Main definitions:

* `OpenError` — why a document could not be opened;
* `PageError` — why a page image was not produced.
-/

set_option autoImplicit false

namespace PageImages

/-- Why a document could not be opened. -/
inductive OpenError where
  /-- The document is malformed. -/
  | corrupt (detail : String)
  /-- The document needs a password. -/
  | passwordProtected
  /-- Any other reason. -/
  | failed (detail : String)
deriving DecidableEq

/-- Why a document could not be opened, in words. -/
def OpenError.message : OpenError → String
  | .corrupt detail => "Corrupt PDF: " ++ detail
  | .passwordProtected => "Password protected"
  | .failed detail => detail

/-- Why a page image was not produced.  Pages are counted from one. -/
inductive PageError where
  /-- The page could not be rendered. -/
  | renderFailed (page : Nat) (detail : String)
  /-- The crop leaves no pixel of the page. -/
  | emptyCrop (page width height : Nat)
  /-- The image could not be encoded or written. -/
  | encodeFailed (page : Nat) (path : Path) (detail : String)
deriving DecidableEq

namespace PageError

/-- The page, counted from one. -/
def page : PageError → Nat
  | .renderFailed page _ => page
  | .emptyCrop page _ _ => page
  | .encodeFailed page _ _ => page

/-- Why a page image was not produced, in words. -/
def message : PageError → String
  | .renderFailed page detail =>
    "Page " ++ toString page ++ ": rasterisation failed: " ++ detail
  | .emptyCrop page width height =>
    "Page " ++ toString page ++ ": crop region is empty on a " ++ toString width ++ "x"
      ++ toString height ++ " px raster"
  | .encodeFailed page path detail =>
    "Page " ++ toString page ++ ": failed to write '" ++ path.display ++ "': " ++ detail

end PageError

end PageImages
