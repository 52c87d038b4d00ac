import PageImages.Json.Error
import PageImages.Settings
import PageImages.Storage.Error

/-!
**Why a batch cannot start.**

A fatal error is found before any document is touched.
-/

set_option autoImplicit false

namespace PageImages

/-- Why a batch cannot start. -/
inductive Fatal where
  /-- The settings file could not be read. -/
  | settingsRead (path : Path) (error : OsError)
  /-- The settings file does not hold settings. -/
  | settingsParse (path : Path) (error : Json.Error)
  /-- Something is wrong with the settings. -/
  | invalidSettings (fault : Settings.Fault)
  /-- The output folder could not be made. -/
  | outputFolder (path : Path) (error : OsError)
  /-- The engine could not be loaded. -/
  | engineUnavailable (detail : String)
deriving DecidableEq

namespace Fatal

/-- What to do about an engine that could not be loaded. -/
def engineAdvice : String :=
  "Place libpdfium next to the executable, install it system-wide, or\n"
    ++ "set PDFIUM_LIB_PATH=/path/to/libpdfium (file or directory).\n"
    ++ "Pre-built libraries: https://github.com/bblanchon/pdfium-binaries/releases"

/-- Why a batch cannot start, in words. -/
def message : Fatal → String
  | .settingsRead path error =>
    "Failed to read settings file '" ++ path.display ++ "': " ++ error.message
  | .settingsParse path error =>
    "Failed to parse settings file '" ++ path.display ++ "': " ++ error.message
  | .invalidSettings fault => "Invalid configuration: " ++ fault.message
  | .outputFolder path error =>
    "Failed to create output folder '" ++ path.display ++ "': " ++ error.message
  | .engineUnavailable detail =>
    "Failed to bind to pdfium library: " ++ detail ++ "\n\n" ++ engineAdvice

/-- The error behind a fatal error, in words, if there is one. -/
def cause? : Fatal → Option String
  | .settingsRead _ error => some error.message
  | .settingsParse _ error => some error.message
  | .invalidSettings _ => none
  | .outputFolder _ error => some error.message
  | .engineUnavailable _ => none

end Fatal

end PageImages
