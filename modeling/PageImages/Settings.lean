import PageImages.Crop
import PageImages.Path

/-!
**Settings of a batch.**

Settings say where documents come from and where page images go, how pages are rendered and encoded,
and what happens to images that are already there.  They are changed field by field and checked
before they are used.

Main definitions:

* `Settings`, `Settings.default` — the settings and their defaults;
* `Settings.Change`, `Settings.apply` — changing single fields;
* `Settings.fault?`, `Settings.check` — what is wrong with settings;
* `Settings.pageLimit` — how many pages of a document are converted.
-/

set_option autoImplicit false

namespace PageImages

/-- The format of page images. -/
inductive ImageFormat where
  /-- With losses, in a quality. -/
  | jpg
  /-- Without losses. -/
  | png
deriving DecidableEq, Repr, Inhabited

/-- The extension of files of a format. -/
def ImageFormat.extension : ImageFormat → String
  | .jpg => "jpg"
  | .png => "png"

/-- What a batch is told to do. -/
structure Settings where
  /-- The folder with the documents. -/
  inputFolder : Path
  /-- The folder for the page images. -/
  outputFolder : Path
  /-- The resolution of page images, in dots per inch. -/
  dpi : Nat
  /-- The format of page images. -/
  format : ImageFormat
  /-- The quality of images with losses. -/
  quality : Nat
  /-- The colour model of page images. -/
  colorspace : Colorspace
  /-- Whether page images that exist are made again. -/
  overwrite : Bool
  /-- Whether a document is left out when its first page image exists. -/
  skipIfExists : Bool
  /-- How many pages of a document are converted at most; zero for all. -/
  maxPages : Nat
  /-- Whether the batch ends with the first document that fails. -/
  failFast : Bool
  /-- The file for the log. -/
  logFile : Option Path
  /-- The part of each page image that is kept. -/
  crop : Crop
deriving DecidableEq, Inhabited

namespace Settings

/-- The settings where nothing is said. -/
def default : Settings where
  inputFolder := Path.ofString "./input"
  outputFolder := Path.ofString "./output"
  dpi := 300
  format := .jpg
  quality := 90
  colorspace := .rgb
  overwrite := false
  skipIfExists := true
  maxPages := 0
  failFast := false
  logFile := none
  crop := Crop.disabled

/-! ### Changes -/

/-- A change of one field. -/
inductive Change where
  | inputFolder (path : Path)
  | outputFolder (path : Path)
  | dpi (n : Nat)
  | format (format : ImageFormat)
  | quality (n : Nat)
  | colorspace (space : Colorspace)
  | overwrite (on : Bool)
  | skipIfExists (on : Bool)
  | maxPages (n : Nat)
  | failFast (on : Bool)
  | logFile (path : Option Path)
  | crop (crop : Crop)

/-- The settings after a change. -/
def change (s : Settings) : Change → Settings
  | .inputFolder path => { s with inputFolder := path }
  | .outputFolder path => { s with outputFolder := path }
  | .dpi n => { s with dpi := n }
  | .format format => { s with format := format }
  | .quality n => { s with quality := n }
  | .colorspace space => { s with colorspace := space }
  | .overwrite on => { s with overwrite := on }
  | .skipIfExists on => { s with skipIfExists := on }
  | .maxPages n => { s with maxPages := n }
  | .failFast on => { s with failFast := on }
  | .logFile path => { s with logFile := path }
  | .crop crop => { s with crop := crop }

/-- The settings after a list of changes. -/
def apply (s : Settings) (changes : List Change) : Settings :=
  changes.foldl change s

/-! ### Checking -/

/-- What can be wrong with settings. -/
inductive Fault where
  /-- The quality is not between 1 and 100. -/
  | quality (n : Nat)
  /-- The resolution is zero. -/
  | resolution
  /-- Something is wrong with the crop. -/
  | crop (fault : Crop.Fault)
deriving DecidableEq

/-- What is wrong with settings, in words. -/
def Fault.message : Fault → String
  | .quality n => "jpg_quality must be 1-100, got " ++ toString n
  | .resolution => "dpi must be ≥ 1"
  | .crop fault => fault.message

/-- What is wrong with the numbers of the settings, the crop apart. -/
def numberFault? (s : Settings) : Option Fault :=
  if s.quality < 1 || 100 < s.quality then some (.quality s.quality)
  else if s.dpi = 0 then some .resolution
  else none

/-- The first thing that is wrong with settings. -/
def fault? (s : Settings) : Option Fault :=
  s.numberFault?.or (s.crop.fault?.map .crop)

/-- The settings themselves, if nothing is wrong with them. -/
def check (s : Settings) : Except Fault Settings :=
  match s.fault? with
  | some fault => .error fault
  | none => .ok s

/-- The resolution, if it is so low or so high that a check of the settings points it out.  A fault
in the numbers comes first, and then nothing is pointed out. -/
def unusualDpi? (s : Settings) : Option Nat :=
  if s.numberFault?.isNone && (s.dpi < 72 || 1200 < s.dpi) then some s.dpi else none

/-! ### Use -/

/-- How many pages of a document with `total` pages are converted. -/
def pageLimit (s : Settings) (total : Nat) : Nat :=
  if 0 < s.maxPages then min total s.maxPages else total

end Settings

end PageImages
