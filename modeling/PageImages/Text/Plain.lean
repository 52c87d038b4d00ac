import PageImages.Text.Utf8

/-!
**Text without control of a terminal.**

A terminal takes some octets as text and others as commands: single control characters, and sequences
that begin with an escape character.  A plain text is what is left without the commands.  It keeps
the control characters that only set text apart, the blanks; one within a sequence is text again, and
so is all behind it up to the next control character.

Main definitions:

* `Plain.Place` — where an octet stands, in text or in a sequence;
* `Plain.Reading`, `Plain.step` — what has been read, and how one more octet is taken;
* `Plain.ofString` — the plain text of a text.
-/

set_option autoImplicit false

namespace PageImages.Plain

/-- Where an octet stands. -/
inductive Place where
  /-- Outside of all sequences. -/
  | text
  /-- Behind an escape character. -/
  | escape
  /-- Behind an escape character and further marks, before the octet that ends the sequence. -/
  | escapeMarks
  /-- In a control sequence, which ends with a letter or a like sign. -/
  | control
  /-- In a command to the system, which ends with a bell. -/
  | command
  /-- At the beginning of a string for a device. -/
  | device
  /-- In the numbers before a string for a device. -/
  | deviceNumbers
  /-- In the marks before a string for a device. -/
  | deviceMarks
  /-- In a string, for a device or of another kind, which ends with a string terminator. -/
  | string
deriving DecidableEq

/-- Whether an octet lies in a range. -/
def within (low high b : UInt8) : Bool := low ≤ b && b ≤ high

/-- Where the octet after `b` stands, if `b` is not text. -/
def Place.next (place : Place) (b : UInt8) : Place :=
  if b = 0x18 || b = 0x1A then .text
  else if b = 0x1B then .escape
  else
    match place with
    | .text => .text
    | .escape =>
      if within 0x20 0x2F b then .escapeMarks
      else if b = 0x50 then .device
      else if b = 0x5B then .control
      else if b = 0x5D then .command
      else if b = 0x58 || b = 0x5E || b = 0x5F then .string
      else if within 0x30 0x7E b then .text
      else .escape
    | .escapeMarks => if within 0x30 0x7E b then .text else .escapeMarks
    | .control => if within 0x40 0x7E b then .text else .control
    | .command => if b = 0x07 then .text else .command
    | .device =>
      if within 0x20 0x2F b then .deviceMarks
      else if within 0x30 0x3F b then .deviceNumbers
      else if within 0x40 0x7E b then .string
      else .device
    | .deviceNumbers =>
      if within 0x20 0x2F b then .deviceMarks
      else if within 0x3C 0x7E b then .string
      else .deviceNumbers
    | .deviceMarks => if within 0x30 0x7E b then .string else .deviceMarks
    | .string => if b = 0x9C then .text else .string

/-- Whether an octet is a control character that sets text apart. -/
def isBlankControl (b : UInt8) : Bool :=
  b = 0x09 || b = 0x0A || b = 0x0C || b = 0x0D

/-- The number of octets that follow an octet in one character. -/
def followers (b : UInt8) : Nat :=
  if within 0xC2 0xDF b then 1
  else if within 0xE0 0xEF b then 2
  else if within 0xF0 0xF4 b then 3
  else 0

/-- Whether an octet shows where text is expected. -/
def shows (b : UInt8) : Bool :=
  within 0x20 0x7E b || isBlankControl b || 0 < followers b

/-- Whether blanks that stand in a sequence of this kind are text. -/
def Place.yieldsBlanks : Place → Bool
  | .escape => true
  | .escapeMarks => true
  | .control => true
  | _ => false

/-- What has been read. -/
structure Reading where
  /-- Where the next octet stands. -/
  place : Place
  /-- Whether the last octet was text. -/
  showing : Bool
  /-- The octets still to come of a character. -/
  more : Nat

/-- Nothing has been read. -/
def Reading.start : Reading := ⟨.text, false, 0⟩

/-- Whether the next octet is text. -/
def Reading.takes (r : Reading) (b : UInt8) : Bool :=
  if r.showing || r.place = .text then 0 < r.more || shows b
  else r.place.yieldsBlanks && isBlankControl b

/-- What has been read after one more octet. -/
def step (r : Reading) (b : UInt8) : Reading :=
  if r.takes b then
    if 0 < r.more then { r with more := r.more - 1 }
    else if 0 < followers b then ⟨.text, true, followers b⟩
    else { r with showing := true }
  else ⟨r.place.next b, false, 0⟩

/-- The octets of a sequence that are text. -/
def octets : Reading → Octets → Octets
  | _, [] => []
  | r, b :: rest => if r.takes b then b :: octets (step r b) rest else octets (step r b) rest

/-- The plain text of a text. -/
def ofString (text : String) : String :=
  Utf8.lossy (octets .start (Utf8.encode text))

end PageImages.Plain
