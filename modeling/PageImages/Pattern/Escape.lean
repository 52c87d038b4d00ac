import PageImages.Pattern.Flags
import PageImages.Text.Digits

/-!
**Escapes in a regular expression.**

A backslash gives a sign its plain meaning and a letter a special one: a control character, a
character by its number, a class of characters, or a place in the text.

Main definitions:

* `Pattern.Escape` — what an escape stands for;
* `Pattern.escape?` — the escape behind a backslash.
-/

set_option autoImplicit false

namespace PageImages.Pattern

/-- What an escape stands for. -/
inductive Escape where
  /-- A character; `octet` says whether it is given by the number of an octet. -/
  | literal (octet : Bool) (c : Char)
  /-- Digits, word characters or blanks, or with `negated` all others. -/
  | shorthand (negated : Bool)
  /-- The beginning or the end of a word, or the lack of both. -/
  | wordEdge
  /-- The beginning or the end of the text. -/
  | textEdge

/-- Reads `count` hexadecimal digits behind a number. -/
def hexNumber? (flags : Flags) : (count : Nat) → Nat → List Char → Option (Nat × List Char)
  | 0, n, cs => some (n, flags.skip cs)
  | count + 1, n, cs =>
    match flags.skip cs with
    | [] => none
    | c :: rest => (Digits.hexValue? c).bind fun d => hexNumber? flags count (16 * n + d) rest

/-- Reads a character by its number of `count` hexadecimal digits. -/
def numbered? (flags : Flags) (octet : Bool) (count : Nat) (cs : List Char) :
    Option (Escape × List Char) := do
  let (n, rest) ← hexNumber? flags count 0 cs
  if n < 0xD800 || (0xDFFF < n && n < 0x110000) then some (.literal octet (Char.ofNat n), rest)
  else none

/-- The control character of a letter. -/
def control? (c : Char) : Option Char :=
  match c with
  | 'a' => some '\x07'
  | 't' => some '\t'
  | 'n' => some '\n'
  | 'v' => some '\x0b'
  | 'f' => some '\x0c'
  | 'r' => some '\r'
  | _ => none

/-- Reads an escape from behind its backslash.  There are no backward references, and no classes by
the properties of characters. -/
def escape? (flags : Flags) : List Char → Option (Escape × List Char)
  | [] => none
  | c :: rest =>
    match c with
    | 'x' => numbered? flags true 2 rest
    | 'u' => numbered? flags false 4 rest
    | 'U' => numbered? flags false 8 rest
    | _ =>
      if "dsw".toList.contains c then some (.shorthand false, rest)
      else if "DSW".toList.contains c then some (.shorthand true, rest)
      else if "bB<>".toList.contains c then some (.wordEdge, rest)
      else if c = 'A' || c = 'z' then some (.textEdge, rest)
      else if c.toNat < 0x80 && !c.isAlphanum then some (.literal false c, rest)
      else (control? c).map fun d => (.literal false d, rest)

end PageImages.Pattern
