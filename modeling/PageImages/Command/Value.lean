import PageImages.Command.Key
import PageImages.Text.Digits

/-!
**The values of options.**

The value of an option is a path, a number in a range, or one of a few words.

Main definitions:

* `Command.integer` — a number with a sign, of limited size;
* `Command.assign` — the arguments with the value of a key.
-/

set_option autoImplicit false

namespace PageImages.Command

/-! ### Numbers -/

/-- Why a text is no number of limited size. -/
inductive IntegerFault where
  | empty
  | digit
  | tooLarge
  | tooSmall

/-- Why a text is no number of limited size, in words. -/
def IntegerFault.message : IntegerFault → String
  | .empty => "cannot parse integer from empty string"
  | .digit => "invalid digit found in string"
  | .tooLarge => "number too large to fit in target type"
  | .tooSmall => "number too small to fit in target type"

/-- Takes digits into a number up to `most`; the first octet that is no digit or leads beyond `most`
is refused. -/
def absorbDigits (most : Nat) (beyond : IntegerFault) :
    Nat → List Char → Except IntegerFault Nat
  | n, [] => .ok n
  | n, c :: cs =>
    if !Digits.isDigit c then .error .digit
    else if most < 10 * n + Digits.value c then .error beyond
    else absorbDigits most beyond (10 * n + Digits.value c) cs

/-- The number of a text from `-least` to `most`; without a `least`, a minus is no part of it. -/
def integer (least? : Option Nat) (most : Nat) (cs : List Char) : Except IntegerFault Int :=
  match cs with
  | [] => .error .empty
  | ['+'] => .error .digit
  | ['-'] => .error .digit
  | '+' :: rest => (absorbDigits most .tooLarge 0 rest).map Int.ofNat
  | '-' :: rest =>
    match least? with
    | some least => (absorbDigits least .tooSmall 0 rest).map fun n => -(n : Int)
    | none => .error .digit
  | _ => (absorbDigits most .tooLarge 0 cs).map Int.ofNat

/-! ### Reading values -/

/-- A value as a text. -/
def textValue (value : Octets) : Except UsageError String :=
  match Utf8.decode? value with
  | some s => .ok s
  | none => .error .notText

/-- A value as a path, which is not empty. -/
def pathValue (key : Key) (value : Octets) : Except UsageError Path :=
  if value.isEmpty then .error (.missingValue key) else .ok ⟨value⟩

/-- A value as a number in a range. -/
def rangedValue (key : Key) (low high : Nat) (value : Octets) : Except UsageError Nat := do
  let text ← textValue value
  match integer (some (Nat.pow 2 63)) (Nat.pow 2 63 - 1) text.toList with
  | .error fault => .error (.notNumber key text fault.message)
  | .ok n =>
    if (low : Int) ≤ n && n ≤ high then .ok n.toNat
    else
      .error (.notNumber key text
        (toString n ++ " is not in " ++ toString low ++ "..=" ++ toString high))

/-- A value as a count. -/
def countValue (key : Key) (value : Octets) : Except UsageError Nat := do
  let text ← textValue value
  match integer none (UInt64.size - 1) text.toList with
  | .error fault => .error (.notNumber key text fault.message)
  | .ok n => .ok n.toNat

/-- The refusal of a value that is none of those that are allowed. -/
def refuse (key : Key) (text : String) : UsageError :=
  if text = "" then .missingValue key else .notAllowed key text

/-- A value as a format. -/
def formatValue (key : Key) (value : Octets) : Except UsageError ImageFormat :=
  match Utf8.lossy value with
  | "jpg" => .ok .jpg
  | "png" => .ok .png
  | text => .error (refuse key text)

/-- A value as a colour model. -/
def colorspaceValue (key : Key) (value : Octets) : Except UsageError Colorspace :=
  match Utf8.lossy value with
  | "rgb" => .ok .rgb
  | "gray" => .ok .gray
  | text => .error (refuse key text)

/-- A value as a truth value. -/
def truthValue (key : Key) (value : Octets) : Except UsageError Bool :=
  match Utf8.lossy value with
  | "true" => .ok true
  | "false" => .ok false
  | text => .error (refuse key text)

/-- The value of an option that is given without one. -/
def flagValue : Octets := Utf8.encode "true"

/-- The arguments with the value of a key. -/
def assign (a : Arguments) (key : Key) (value : Octets) : Except UsageError Arguments := do
  match key with
  | .settings => return { a with settings := some (← pathValue key value) }
  | .input => return { a with input := some (← pathValue key value) }
  | .output => return { a with output := some (← pathValue key value) }
  | .dpi => return { a with dpi := some (← rangedValue key 1 (UInt32.size - 1) value) }
  | .format => return { a with format := some (← formatValue key value) }
  | .quality => return { a with quality := some (← rangedValue key 1 100 value) }
  | .colorspace => return { a with colorspace := some (← colorspaceValue key value) }
  | .overwrite => return { a with overwrite := ← truthValue key value }
  | .failFast => return { a with failFast := ← truthValue key value }
  | .maxPages => return { a with maxPages := some (← countValue key value) }
  | .library => return { a with library := some (← pathValue key value) }
  | .json => return { a with json := ← truthValue key value }
  | .noProgress => return { a with noProgress := ← truthValue key value }
  | .verbose => return { a with verbose := ← truthValue key value }
  | .quiet => return { a with quiet := ← truthValue key value }

end PageImages.Command
