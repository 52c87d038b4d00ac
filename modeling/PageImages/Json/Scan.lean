import PageImages.Json.Error

/-!
**The lexical parts of JSON.**

Every reader takes the characters of the text that are left and returns what it has read with those
that are left then.  A reader that refuses a character either has consumed the octet or only looked
at it; `Failure.after` and `Failure.before` give the two places.

Main definitions:

* `Json.Reader` — a reader of values;
* `Json.skipBlanks`, `Json.word`, `Json.colon` — blanks, fixed words and colons;
* `Json.string` — the rest of a string, from behind its opening quotation mark.
-/

set_option autoImplicit false

namespace PageImages.Json

/-- A reader of values of type `α`. -/
abbrev Reader (α : Type) := List Char → Except Failure (α × List Char)

/-- The refusal that comes when all but `rest` has been consumed. -/
def Failure.after (cause : Cause) (rest : List Char) : Failure :=
  .placed cause (Utf8.widths rest)

/-- The refusal of the octet at the head of `rest`; it counts as read. -/
def Failure.before (cause : Cause) (rest : List Char) : Failure :=
  .placed cause (Utf8.widths rest - 1)

/-! ### Blanks, words and colons -/

/-- Whether a character may stand between tokens. -/
def isBlank (c : Char) : Bool :=
  c = ' ' || c = '\n' || c = '\t' || c = '\r'

/-- The text from its first character that is no blank. -/
def skipBlanks (cs : List Char) : List Char :=
  cs.dropWhile isBlank

/-- Reads the characters of a fixed word. -/
def word : (expected : List Char) → List Char → Except Failure (List Char)
  | [], cs => .ok cs
  | _ :: _, [] => .error (.after .endInValue [])
  | e :: expected, c :: rest =>
    if c = e then word expected rest else .error (.before .identExpected (c :: rest))

/-- Reads the colon behind a key. -/
def colon (cs : List Char) : Except Failure (List Char) :=
  match skipBlanks cs with
  | [] => .error (.before .endInObject [])
  | c :: rest =>
    if c = ':' then .ok rest else .error (.before .colonExpected (c :: rest))

/-! ### Strings -/

/-- What a string reader expects next. -/
inductive Expect where
  /-- A character of the string, or its end. -/
  | plain
  /-- The letter of an escape. -/
  | escape
  /-- So many more hexadecimal digits and one, after digits of this value; perhaps the second half
  of a surrogate pair. -/
  | hex (more : Nat) (value : Nat) (lead : Option Nat)
  /-- The backslash of the second half of a surrogate pair. -/
  | pairBackslash (lead : Nat)
  /-- The letter of the second half of a surrogate pair. -/
  | pairLetter (lead : Nat)

/-- The character that an escape of one letter stands for. -/
def simpleEscape? (c : Char) : Option Char :=
  if c = '"' then some '"'
  else if c = '\\' then some '\\'
  else if c = '/' then some '/'
  else if c = 'b' then some '\x08'
  else if c = 'f' then some '\x0c'
  else if c = 'n' then some '\n'
  else if c = 'r' then some '\r'
  else if c = 't' then some '\t'
  else none

/-- What is wrong with the four octets of hexadecimal digits at the head of a text. -/
def hexFault? (cs : List Char) : Option Failure :=
  let digits := cs.take 4
  if Utf8.widths digits < 4 then some (.after .endInString [])
  else if digits.length = 4 && digits.all fun c => (Digits.hexValue? c).isSome then none
  else some (.placed .escapeInvalid (Utf8.widths cs - 4))

/-- Whether a code unit is the first half of a surrogate pair. -/
def isLead (unit : Nat) : Bool := 0xD800 ≤ unit && unit ≤ 0xDBFF

/-- Whether a code unit is the second half of a surrogate pair. -/
def isTrail (unit : Nat) : Bool := 0xDC00 ≤ unit && unit ≤ 0xDFFF

/-- The character of a surrogate pair. -/
def pairChar (lead trail : Nat) : Char :=
  Char.ofNat ((lead - 0xD800) * 1024 + (trail - 0xDC00) + 0x10000)

/-- A character in front of what has been read. -/
def consTo (c : Char) :
    Except Failure (List Char × List Char) → Except Failure (List Char × List Char)
  | .ok (cs, rest) => .ok (c :: cs, rest)
  | .error failure => .error failure

/-- The characters of a string, up to its closing quotation mark.  A string that is only passed over
(`keep` is false) may have halves of surrogate pairs alone. -/
def stringFrom (keep : Bool) : Expect → List Char → Except Failure (List Char × List Char)
  | _, [] => .error (.after .endInString [])
  | .plain, c :: rest =>
    if c = '"' then .ok ([], rest)
    else if c = '\\' then stringFrom keep .escape rest
    else if c.toNat < 0x20 then
      .error (.after .controlCharacter (if keep then rest else c :: rest))
    else consTo c (stringFrom keep .plain rest)
  | .escape, c :: rest =>
    if c = 'u' then
      match hexFault? rest with
      | some failure => .error failure
      | none => stringFrom keep (.hex 3 0 none) rest
    else
      match simpleEscape? c with
      | some d => consTo d (stringFrom keep .plain rest)
      | none => .error (.before .escapeInvalid (c :: rest))
  | .hex (more + 1) value lead, c :: rest =>
    stringFrom keep (.hex more (16 * value + (Digits.hexValue? c).getD 0) lead) rest
  | .hex 0 value lead, c :: rest =>
    let unit := 16 * value + (Digits.hexValue? c).getD 0
    if keep then
      match lead with
      | some first =>
        if isTrail unit then consTo (pairChar first unit) (stringFrom keep .plain rest)
        else .error (.after .surrogateAlone rest)
      | none =>
        if isTrail unit then .error (.after .surrogateAlone rest)
        else if isLead unit then stringFrom keep (.pairBackslash unit) rest
        else consTo (Char.ofNat unit) (stringFrom keep .plain rest)
    else stringFrom keep .plain rest
  | .pairBackslash lead, c :: rest =>
    if c = '\\' then stringFrom keep (.pairLetter lead) rest
    else .error (.before .escapeUnfinished (c :: rest))
  | .pairLetter lead, c :: rest =>
    if c = 'u' then
      match hexFault? rest with
      | some failure => .error failure
      | none => stringFrom keep (.hex 3 0 (some lead)) rest
    else .error (.before .escapeUnfinished (c :: rest))

/-- Reads the characters of a string from behind its opening quotation mark. -/
def string : Reader String := fun cs =>
  match stringFrom true .plain cs with
  | .ok (chars, rest) => .ok (String.ofList chars, rest)
  | .error failure => .error failure

/-- Passes over a string from behind its opening quotation mark. -/
def skipString (cs : List Char) : Except Failure (List Char) :=
  match stringFrom false .plain cs with
  | .ok (_, rest) => .ok rest
  | .error failure => .error failure

end PageImages.Json
