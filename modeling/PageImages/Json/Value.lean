import PageImages.Text.Digits

/-!
**JSON values as text.**

A value is written over several lines, two blanks deeper for each level; empty lists and objects stay
on one line.  In strings only quotation marks, backslashes and control characters are escaped.

Main definitions:

* `Json.Value` — a JSON value whose numbers are whole and not negative;
* `Json.Value.pretty` — its text.
-/

set_option autoImplicit false

namespace PageImages.Json

/-- A JSON value; the members of an object keep their order. -/
inductive Value where
  | null
  | number (n : Nat)
  | string (s : String)
  | list (items : List Value)
  | object (members : List (String × Value))
deriving Inhabited

/-- A character as it stands in a string. -/
def escapeChar (c : Char) : List Char :=
  if c = '"' then ['\\', '"']
  else if c = '\\' then ['\\', '\\']
  else if c = '\x08' then ['\\', 'b']
  else if c = '\x0c' then ['\\', 'f']
  else if c = '\n' then ['\\', 'n']
  else if c = '\r' then ['\\', 'r']
  else if c = '\t' then ['\\', 't']
  else if c.toNat < 0x20 then '\\' :: 'u' :: Digits.hex 4 c.toNat
  else [c]

/-- A string with its quotation marks. -/
def writeString (s : String) : List Char :=
  '"' :: (s.toList.flatMap escapeChar ++ ['"'])

/-- The start of a line at a level. -/
def newLine (level : Nat) : List Char :=
  '\n' :: List.replicate (2 * level) ' '

mutual

/-- The characters of a value that starts at a level. -/
def Value.write (level : Nat) : Value → List Char
  | .null => ['n', 'u', 'l', 'l']
  | .number n => Digits.ofNat n
  | .string s => writeString s
  | .list [] => ['[', ']']
  | .list (item :: items) =>
    '[' :: (newLine (level + 1) ++ item.write (level + 1) ++ writeItems (level + 1) items
      ++ newLine level ++ [']'])
  | .object [] => ['\x7b', '\x7d']
  | .object ((key, value) :: members) =>
    '\x7b' :: (newLine (level + 1) ++ writeString key ++ [':', ' '] ++ value.write (level + 1)
      ++ writeMembers (level + 1) members ++ newLine level ++ ['\x7d'])

/-- The characters of the items of a list behind its first one. -/
def writeItems (level : Nat) : List Value → List Char
  | [] => []
  | item :: items => ',' :: (newLine level ++ item.write level ++ writeItems level items)

/-- The characters of the members of an object behind its first one. -/
def writeMembers (level : Nat) : List (String × Value) → List Char
  | [] => []
  | (key, value) :: members =>
    ',' :: (newLine level ++ writeString key ++ [':', ' '] ++ value.write level
      ++ writeMembers level members)

end

/-- The text of a value. -/
def Value.pretty (v : Value) : String :=
  String.ofList (v.write 0)

end PageImages.Json
