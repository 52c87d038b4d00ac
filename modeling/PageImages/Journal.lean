import PageImages.Crop
import PageImages.Failure
import PageImages.Storage.Error

/-!
**The journal.**

What a batch has to say while it runs is a sequence of notices.  Each notice has a level and a
source, by which journals are filtered, and a message.

Main definitions:

* `Level` — how important a notice is;
* `Notice` — what is said;
* `Notice.level`, `Notice.source`, `Notice.message` — its parts.
-/

set_option autoImplicit false

namespace PageImages

/-- How important a notice is, the most important first. -/
inductive Level where
  | error
  | warn
  | info
  | debug
  | trace
deriving DecidableEq, Repr

namespace Level

/-- The place of a level in the order of importance. -/
def rank : Level → Nat
  | .error => 1
  | .warn => 2
  | .info => 3
  | .debug => 4
  | .trace => 5

/-- The name of a level. -/
def name : Level → String
  | .error => "ERROR"
  | .warn => "WARN"
  | .info => "INFO"
  | .debug => "DEBUG"
  | .trace => "TRACE"

end Level

/-- What is said while settings are read, an engine is loaded and documents are converted.  Documents
are named by their file names. -/
inductive Notice where
  /-- The resolution is unusually low or high. -/
  | unusualDpi (dpi : Nat)
  /-- There is no settings file. -/
  | settingsMissing (path : Path)
  /-- The settings file is being read. -/
  | settingsLoading (path : Path)
  /-- The input folder is no directory. -/
  | inputMissing (folder : Path)
  /-- The input folder cannot be listed. -/
  | inputUnlistable (folder : Path) (error : OsError)
  /-- The input folder has no documents. -/
  | noDocuments (folder : Path)
  /-- The input folder has so many documents. -/
  | documentsFound (count : Nat)
  /-- The document is left out, because its first page image exists. -/
  | documentSkipped (document : String)
  /-- The document is encrypted. -/
  | documentEncrypted (document : String)
  /-- The document is malformed. -/
  | documentCorrupt (document : String) (error : OpenError)
  /-- The document could not be opened. -/
  | documentUnopened (document : String) (error : OpenError)
  /-- The pages of the document are gone through. -/
  | documentStarted (document : String) (limit total : Nat)
  /-- All pages have their image. -/
  | documentDone (document : String) (converted total : Nat)
  /-- Some pages failed. -/
  | documentPartly (document : String) (converted total failed : Nat)
  /-- All pages failed. -/
  | documentFailed (document : String)
  /-- The page image exists and is kept. -/
  | pageKept (path : Path)
  /-- The page is cropped to a window. -/
  | pageCropped (window : Window)
  /-- The page image has been written. -/
  | pageEncoded (width height : Nat) (path : Path)
  /-- The page has its image. -/
  | pageConverted (path : Path)
  /-- The page failed. -/
  | pageFailed (error : PageError) (document : String)
  /-- The batch ends after a document that failed. -/
  | batchStopped
  /-- The batch is done. -/
  | batchDone (count : Nat)
  /-- The engine is loaded from a file. -/
  | engineLoading (path : Path)
  /-- A line about the run of the program. -/
  | banner (line : String)
deriving DecidableEq

namespace Notice

/-- The level of a notice. -/
def level : Notice → Level
  | .unusualDpi _ => .warn
  | .settingsMissing _ => .warn
  | .settingsLoading _ => .info
  | .inputMissing _ => .error
  | .inputUnlistable _ _ => .warn
  | .noDocuments _ => .warn
  | .documentsFound _ => .info
  | .documentSkipped _ => .info
  | .documentEncrypted _ => .warn
  | .documentCorrupt _ _ => .error
  | .documentUnopened _ _ => .error
  | .documentStarted _ _ _ => .debug
  | .documentDone _ _ _ => .info
  | .documentPartly _ _ _ _ => .warn
  | .documentFailed _ => .error
  | .pageKept _ => .debug
  | .pageCropped _ => .debug
  | .pageEncoded _ _ _ => .debug
  | .pageConverted _ => .debug
  | .pageFailed _ _ => .error
  | .batchStopped => .error
  | .batchDone _ => .info
  | .engineLoading _ => .debug
  | .banner _ => .info

/-- The part of the program that a notice comes from. -/
def source : Notice → String
  | .unusualDpi _ => "pdf2img::config"
  | .settingsMissing _ => "pdf2img::config"
  | .settingsLoading _ => "pdf2img::config"
  | .documentSkipped _ => "pdf2img::pipeline::skip"
  | .pageKept _ => "pdf2img::pipeline::page"
  | .pageCropped _ => "pdf2img::pipeline::page"
  | .pageConverted _ => "pdf2img::pipeline::page"
  | .pageEncoded _ _ _ => "pdf2img::pipeline::encode"
  | .engineLoading _ => "pdf2img::pipeline::render"
  | .banner _ => "pdf2img"
  | _ => "pdf2img::convert"

/-- The message of a notice; `elapsed` is the time that the batch took, in milliseconds. -/
def message (elapsed : String) : Notice → String
  | .unusualDpi dpi => "DPI " ++ toString dpi ++ " is unusual. Recommended: 72-600."
  | .settingsMissing path => "Settings file not found: " ++ path.display ++ ". Using defaults."
  | .settingsLoading path => "Loading settings from: " ++ path.display
  | .inputMissing folder => "Input folder not found or not a directory: " ++ folder.display
  | .inputUnlistable folder error =>
    "Cannot list input folder " ++ folder.display ++ ": " ++ error.message
  | .noDocuments folder => "No PDF files found in: " ++ folder.display
  | .documentsFound count => "Found " ++ toString count ++ " PDF file(s)"
  | .documentSkipped document => "Skipping (output exists): " ++ document
  | .documentEncrypted document => "Encrypted PDF (skipping): " ++ document
  | .documentCorrupt document error => "Corrupt PDF: " ++ document ++ " - " ++ error.message
  | .documentUnopened document error => "Failed to open: " ++ document ++ " - " ++ error.message
  | .documentStarted document limit total =>
    document ++ ": processing " ++ toString limit ++ " of " ++ toString total ++ " pages"
  | .documentDone document converted total =>
    "✓ " ++ document ++ ": " ++ toString converted ++ "/" ++ toString total ++ " pages"
  | .documentPartly document converted total failed =>
    "⚠ " ++ document ++ ": " ++ toString converted ++ "/" ++ toString total ++ " pages ("
      ++ toString failed ++ " failed)"
  | .documentFailed document => "✗ " ++ document ++ ": All pages failed"
  | .pageKept path => "Skipping existing: " ++ path.display
  | .pageCropped w =>
    "Cropped: (" ++ toString w.left ++ "," ++ toString w.top ++ ") to (" ++ toString w.right ++ ","
      ++ toString w.bottom ++ ")"
  | .pageEncoded width height path =>
    "Encoded " ++ toString width ++ "x" ++ toString height ++ " px → " ++ path.display
  | .pageConverted path => "Converted: " ++ path.display
  | .pageFailed error document => error.message ++ " in " ++ document
  | .batchStopped => "fail_fast enabled. Stopping."
  | .batchDone count =>
    "Batch complete: " ++ toString count ++ " file(s) in " ++ elapsed ++ "ms"
  | .engineLoading path => "Binding pdfium from " ++ path.display
  | .banner line => line

end Notice

end PageImages
