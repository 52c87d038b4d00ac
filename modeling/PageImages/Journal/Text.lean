import PageImages.Journal
import PageImages.Text.Quoted

/-!
**Lines of the journal.**

A notice is shown as its level and its message.  Control characters that could act on a terminal are
written as escapes; a message may have several lines.
-/

set_option autoImplicit false

namespace PageImages.Notice

/-- The control characters that are written as an escape of two hexadecimal digits. -/
def shortEscapes : List Nat := [0x07, 0x08, 0x0C, 0x1B, 0x7F]

/-- A character as it stands in a line. -/
def lineChar (c : Char) : List Char :=
  let n := c.toNat
  if shortEscapes.contains n then '\\' :: 'x' :: Digits.hex 2 n
  else if 0x80 ≤ n && n ≤ 0x9F then Text.codeEscape c
  else [c]

/-- The message as it is shown. -/
def shownMessage (elapsed : String) (n : Notice) : String :=
  String.ofList ((n.message elapsed).toList.flatMap lineChar)

/-- The notice as it is shown: the level and the message. -/
def line (elapsed : String) (n : Notice) : String :=
  n.level.name ++ " " ++ n.shownMessage elapsed

end PageImages.Notice
