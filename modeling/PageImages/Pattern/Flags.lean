import PageImages.Text.Blank

/-!
**The flags of a regular expression.**

Flags are switched on and off by letters within an expression.  Three of them decide what may be
written: whether letters match in either case, whether characters are those of all scripts, and
whether blanks and comments are passed over.

Only whole characters are matched.  Without the characters of all scripts, nothing is allowed that
could match an octet in the middle of one.  With them, nothing is allowed that needs to know which
characters are letters, or which belong together as two cases of one.

Main definitions:

* `Pattern.Flags`, `Pattern.Flags.switch` — the flags, and letters that change them;
* `Pattern.Flags.skip` — what follows blanks and comments.
-/

set_option autoImplicit false

namespace PageImages.Pattern

/-- The flags that decide what may be written. -/
structure Flags where
  /-- Whether letters match in either case. -/
  ignoreCase : Bool
  /-- Whether characters are those of all scripts. -/
  unicode : Bool
  /-- Whether blanks and comments are passed over. -/
  spaced : Bool

namespace Flags

/-- The flags at the beginning of an expression. -/
def initial : Flags := ⟨false, true, false⟩

/-! ### Letters -/

/-- The letters of all flags. -/
def letters : List Char := "imsURux".toList

/-- The flags with the flag of one letter set. -/
def set (flags : Flags) (value : Bool) (letter : Char) : Flags :=
  if letter = 'i' then { flags with ignoreCase := value }
  else if letter = 'u' then { flags with unicode := value }
  else if letter = 'x' then { flags with spaced := value }
  else flags

/-- Whether a text switches flags: letters that occur once, with at most one hyphen among them, which
is not the last. -/
def areSwitches (text : List Char) : Bool :=
  text.all (fun c => c = '-' || letters.contains c) && text.eraseDups.length == text.length
    && text.getLast? ≠ some '-'

/-- The flags with those before the hyphen switched on, and those behind it switched off. -/
def switch (flags : Flags) (text : List Char) : Flags :=
  let on := text.takeWhile (· ≠ '-')
  let off := text.dropWhile (· ≠ '-')
  off.foldl (fun f c => f.set false c) (on.foldl (fun f c => f.set true c) flags)

/-! ### Blanks -/

/-- What follows blanks and comments; `comment` says whether the text begins within a comment, which
reaches to the end of its line. -/
def skipFrom : (comment : Bool) → List Char → List Char
  | _, [] => []
  | true, c :: rest => skipFrom (c ≠ '\n') rest
  | false, c :: rest =>
    if c = '#' then skipFrom true rest
    else if Text.isBlank c then skipFrom false rest
    else c :: rest

/-- What follows blanks and comments, where they are passed over. -/
def skip (flags : Flags) (cs : List Char) : List Char :=
  if flags.spaced then skipFrom false cs else cs

/-- The character that is seen ahead.  Where blanks are passed over, so is the mark of one comment,
but not its text; where nothing else follows, the first blank is seen. -/
def ahead? (flags : Flags) (cs : List Char) : Option Char :=
  if flags.spaced then
    let seen :=
      match cs.dropWhile Text.isBlank with
      | '#' :: rest => rest.dropWhile Text.isBlank
      | rest => rest
    seen.head? <|> cs.head?
  else cs.head?

/-! ### What is allowed -/

/-- Whether a character may be written; `octet` says whether it is given by the number of an octet. -/
def allowsLiteral (flags : Flags) (octet : Bool) (c : Char) : Bool :=
  if flags.unicode then !flags.ignoreCase else !octet || c.toNat < 0x80

/-- Whether a character may be a member of a class. -/
def allowsMember (flags : Flags) (c : Char) : Bool :=
  if flags.unicode then !flags.ignoreCase else c.toNat < 0x80

/-- Whether digits, word characters or blanks, or with `negated` all others, may be asked for by a
letter. -/
def allowsShorthand (flags : Flags) (negated : Bool) : Bool :=
  !flags.unicode && !negated

/-- Whether a class with a name, or with `negated` its complement, may be a member of a class. -/
def allowsNamed (flags : Flags) (negated : Bool) : Bool :=
  if flags.unicode then !flags.ignoreCase else !negated

/-- Whether a class may be a complement. -/
def allowsComplement (flags : Flags) : Bool := flags.unicode

/-- Whether any character may be asked for. -/
def allowsAny (flags : Flags) : Bool := flags.unicode

/-- Whether the beginning or the end of a word may be asked for. -/
def allowsWordEdge (flags : Flags) : Bool := !flags.unicode

end Flags

end PageImages.Pattern
