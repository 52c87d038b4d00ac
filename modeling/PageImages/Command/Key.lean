import PageImages.Settings
import PageImages.Text.Plain

/-!
**The arguments of the command line.**

The program has one argument without a name, options with a value and options without one.  An
option that is not on the command line may be given by an environment variable.

Main definitions:

* `Command.Key` — what can be given;
* `Command.Arguments` — what has been given;
* `Command.UsageError` — what can be wrong with a command line.
-/

set_option autoImplicit false

namespace PageImages.Command

/-- What can be given on the command line. -/
inductive Key where
  | settings
  | input
  | output
  | dpi
  | format
  | quality
  | colorspace
  | overwrite
  | failFast
  | maxPages
  | library
  | json
  | noProgress
  | verbose
  | quiet
deriving DecidableEq, Repr

namespace Key

/-- All keys, in the order in which the environment is asked for them. -/
def all : List Key :=
  [.settings, .input, .output, .dpi, .format, .quality, .colorspace, .overwrite, .failFast,
    .maxPages, .library, .json, .noProgress, .verbose, .quiet]

/-- The name of an option. -/
def long? : Key → Option String
  | .settings => none
  | .input => some "input"
  | .output => some "output"
  | .dpi => some "dpi"
  | .format => some "format"
  | .quality => some "quality"
  | .colorspace => some "colorspace"
  | .overwrite => some "overwrite"
  | .failFast => some "fail-fast"
  | .maxPages => some "max-pages"
  | .library => some "pdfium-lib"
  | .json => some "json"
  | .noProgress => some "no-progress"
  | .verbose => some "verbose"
  | .quiet => some "quiet"

/-- The letter of an option. -/
def short? : Key → Option Char
  | .input => some 'i'
  | .output => some 'o'
  | .verbose => some 'v'
  | .quiet => some 'q'
  | _ => none

/-- The environment variable of an option. -/
def environmentName? : Key → Option String
  | .settings => none
  | .input => some "PDF2IMG_INPUT"
  | .output => some "PDF2IMG_OUTPUT"
  | .dpi => some "PDF2IMG_DPI"
  | .format => some "PDF2IMG_FORMAT"
  | .quality => some "PDF2IMG_QUALITY"
  | .colorspace => some "PDF2IMG_COLORSPACE"
  | .overwrite => some "PDF2IMG_OVERWRITE"
  | .failFast => some "PDF2IMG_FAIL_FAST"
  | .maxPages => some "PDF2IMG_MAX_PAGES"
  | .library => some "PDFIUM_LIB_PATH"
  | .json => some "PDF2IMG_JSON"
  | .noProgress => some "PDF2IMG_NO_PROGRESS"
  | .verbose => some "PDF2IMG_VERBOSE"
  | .quiet => some "PDF2IMG_QUIET"

/-- Whether a key is an option without a value. -/
def isFlag : Key → Bool
  | .overwrite => true
  | .failFast => true
  | .json => true
  | .noProgress => true
  | .verbose => true
  | .quiet => true
  | _ => false

/-- How a key is written in a message. -/
def shown : Key → String
  | .settings => "[SETTINGS]"
  | .input => "--input <INPUT>"
  | .output => "--output <OUTPUT>"
  | .dpi => "--dpi <DPI>"
  | .format => "--format <FORMAT>"
  | .quality => "--quality <QUALITY>"
  | .colorspace => "--colorspace <COLORSPACE>"
  | .overwrite => "--overwrite"
  | .failFast => "--fail-fast"
  | .maxPages => "--max-pages <MAX_PAGES>"
  | .library => "--pdfium-lib <PDFIUM_LIB>"
  | .json => "--json"
  | .noProgress => "--no-progress"
  | .verbose => "--verbose"
  | .quiet => "--quiet"

/-- The option of a name. -/
def ofLong? (name : String) : Option Key :=
  all.find? fun key => key.long? = some name

/-- The option of a letter. -/
def ofShort? (c : Char) : Option Key :=
  all.find? fun key => key.short? = some c

end Key

/-- What has been given. -/
structure Arguments where
  settings : Option Path
  input : Option Path
  output : Option Path
  dpi : Option Nat
  format : Option ImageFormat
  quality : Option Nat
  colorspace : Option Colorspace
  overwrite : Bool
  failFast : Bool
  maxPages : Option Nat
  library : Option Path
  json : Bool
  noProgress : Bool
  verbose : Bool
  quiet : Bool
deriving DecidableEq

/-- Nothing has been given. -/
def Arguments.none : Arguments :=
  { settings := Option.none
    input := Option.none
    output := Option.none
    dpi := Option.none
    format := Option.none
    quality := Option.none
    colorspace := Option.none
    overwrite := false
    failFast := false
    maxPages := Option.none
    library := Option.none
    json := false
    noProgress := false
    verbose := false
    quiet := false }

/-- What can be wrong with a command line. -/
inductive UsageError where
  /-- There is no such argument. -/
  | unexpected (text : String)
  /-- An option without a value has one. -/
  | unexpectedValue (value shown : String)
  /-- A value is missing or empty. -/
  | missingValue (key : Key)
  /-- A key is given again. -/
  | repeated (key : Key)
  /-- A value is none of those that are allowed. -/
  | notAllowed (key : Key) (value : String)
  /-- A value is no number, or a number out of range. -/
  | notNumber (key : Key) (value detail : String)
  /-- A value is no text. -/
  | notText
deriving DecidableEq

/-- What is wrong with a command line, in words.  What was given is shown as plain text. -/
def UsageError.message : UsageError → String
  | .unexpected text => "unexpected argument '" ++ Plain.ofString text ++ "' found"
  | .unexpectedValue value shown =>
    "unexpected value '" ++ Plain.ofString value ++ "' for '" ++ shown
      ++ "' found; no more were expected"
  | .missingValue key => "a value is required for '" ++ key.shown ++ "' but none was supplied"
  | .repeated key => "the argument '" ++ key.shown ++ "' cannot be used multiple times"
  | .notAllowed key value =>
    "invalid value '" ++ Plain.ofString value ++ "' for '" ++ key.shown ++ "'"
  | .notNumber key value detail =>
    "invalid value '" ++ Plain.ofString value ++ "' for '" ++ key.shown ++ "': " ++ detail
  | .notText => "invalid UTF-8 was detected in one or more arguments"

end PageImages.Command
