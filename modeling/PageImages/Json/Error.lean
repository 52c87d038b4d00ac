import PageImages.Binary.Decimal
import PageImages.Text.Quoted
import PageImages.Text.Utf8

/-!
**What can be wrong with a JSON text.**

A text is refused either because it is no JSON or because it does not hold the value that is wanted.
A refusal names the place up to which the text was read, by line and by octets in the line; a fault
that belongs to a whole value takes the place where the value ends.

Main definitions:

* `Json.Cause` — what is wrong;
* `Json.Failure` — a cause, and how much of the text was left;
* `Json.Error` — a cause with its line and column;
* `Json.Error.message` — the words for it.
-/

set_option autoImplicit false

namespace PageImages.Json

/-- What stands in a text where something else was wanted. -/
inductive Found where
  | null
  | boolean (value : Bool)
  | integer (value : Int)
  | real (value : Binary64)
  | text (value : String)
  | list
  | object
  | bareVariant
deriving DecidableEq

/-- What stands in a text, in words. -/
def Found.describe : Found → String
  | .null => "null"
  | .boolean value => "boolean `" ++ (if value then "true" else "false") ++ "`"
  | .integer value => "integer `" ++ toString value ++ "`"
  | .real value => "floating point `" ++ value.compact ++ "`"
  | .text value => "string " ++ Text.quoted value
  | .list => "sequence"
  | .object => "map"
  | .bareVariant => "unit variant"

/-- Why a text is refused. -/
inductive Cause where
  | endInList
  | endInObject
  | endInString
  | endInValue
  | colonExpected
  | listContinuationExpected
  | objectContinuationExpected
  | identExpected
  | valueExpected
  | keyExpected
  | escapeInvalid
  | escapeUnfinished
  | surrogateAlone
  | controlCharacter
  | numberInvalid
  | numberTooLarge
  | commaAtEnd
  | textAfterEnd
  | wrongType (found : Found) (expected : String)
  | wrongValue (found : Found) (expected : String)
  | wrongLength (length : Nat) (expected : String)
  | unknownVariant (name : String) (known : List String)
  | missingField (name : String)
  | duplicateField (name : String)
deriving DecidableEq

/-- The known names in a sentence about an unknown one. -/
def alternatives (known : List String) : String :=
  let marked := known.map fun name => "`" ++ name ++ "`"
  match marked with
  | [first] => first
  | [first, second] => first ++ " or " ++ second
  | _ => "one of " ++ String.intercalate ", " marked

/-- Why a text is refused, in words. -/
def Cause.message : Cause → String
  | .endInList => "EOF while parsing a list"
  | .endInObject => "EOF while parsing an object"
  | .endInString => "EOF while parsing a string"
  | .endInValue => "EOF while parsing a value"
  | .colonExpected => "expected `:`"
  | .listContinuationExpected => "expected `,` or `]`"
  | .objectContinuationExpected => "expected `,` or `\x7d`"
  | .identExpected => "expected ident"
  | .valueExpected => "expected value"
  | .keyExpected => "key must be a string"
  | .escapeInvalid => "invalid escape"
  | .escapeUnfinished => "unexpected end of hex escape"
  | .surrogateAlone => "lone leading surrogate in hex escape"
  | .controlCharacter => "control character (\\u0000-\\u001F) found while parsing a string"
  | .numberInvalid => "invalid number"
  | .numberTooLarge => "number out of range"
  | .commaAtEnd => "trailing comma"
  | .textAfterEnd => "trailing characters"
  | .wrongType found expected => "invalid type: " ++ found.describe ++ ", expected " ++ expected
  | .wrongValue found expected => "invalid value: " ++ found.describe ++ ", expected " ++ expected
  | .wrongLength length expected =>
    "invalid length " ++ toString length ++ ", expected " ++ expected
  | .unknownVariant name known =>
    "unknown variant `" ++ name ++ "`, expected " ++ alternatives known
  | .missingField name => "missing field `" ++ name ++ "`"
  | .duplicateField name => "duplicate field `" ++ name ++ "`"

/-- A refusal on the way through a text. -/
inductive Failure where
  /-- The place is settled: so many octets of the text were left. -/
  | placed (cause : Cause) (left : Nat)
  /-- The place is still to be settled by the value around it, which goes on with `rest`. -/
  | unplaced (cause : Cause) (rest : List Char)

/-- A refused text: the cause, and the line and column up to which the text was read. -/
structure Error where
  /-- Why the text is refused. -/
  cause : Cause
  /-- The line, from one, and the number of octets of it that were read. -/
  place : Option (Nat × Nat)
deriving DecidableEq

/-- The line and column after the first `count` octets of a text, when `line` and `column` are those
of its start. -/
def locate : (count line column : Nat) → List Char → Nat × Nat
  | _, line, column, [] => (line, column)
  | count, line, column, c :: rest =>
    let w := Utf8.width c
    if count = 0 then (line, column)
    else if count < w then (line, column + count)
    else if c = '\n' then locate (count - w) (line + 1) 0 rest
    else locate (count - w) line (column + w) rest

/-- A refusal of the text `cs`, with its place. -/
def Failure.settle (cs : List Char) : Failure → Error
  | .placed cause left => ⟨cause, some (locate (Utf8.widths cs - left) 1 0 cs)⟩
  | .unplaced cause _ => ⟨cause, none⟩

/-- A refused text, in words. -/
def Error.message (e : Error) : String :=
  match e.place with
  | some (line, column) =>
    e.cause.message ++ " at line " ++ toString line ++ " column " ++ toString column
  | none => e.cause.message

end PageImages.Json
