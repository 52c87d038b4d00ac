import PageImages.Text.Digits

/-!
**JSON texts.**

A JSON text can be written in many ways: with blanks between tokens, with characters of a string
spelled by escapes, with members in any order.  Here is said which texts write which values, without
regard to how texts are read or values are printed.

Main definitions:

* `Json.Sign`, `Json.Spelled` — what a string consists of, and how it can be spelled;
* `Json.Numeral` — a number as it is written;
* `Json.Tree` — a value of any kind;
* `Json.Written` — **the texts of a value**, without blanks around it.
-/

set_option autoImplicit false

namespace PageImages.Json

/-! ### Blanks -/

/-- Blanks, as they may stand between tokens. -/
def Blank (cs : List Char) : Prop :=
  ∀ c ∈ cs, c ∈ [' ', '\t', '\n', '\r']

theorem blank_nil : Blank [] := by
  intro c h
  cases h

theorem Blank.tail {c : Char} {cs : List Char} (h : Blank (c :: cs)) : Blank cs :=
  fun d hd => h d (List.mem_cons_of_mem c hd)

theorem Blank.append {a b : List Char} (ha : Blank a) (hb : Blank b) : Blank (a ++ b) := by
  intro c hc
  rcases List.mem_append.1 hc with hc | hc
  · exact ha c hc
  · exact hb c hc

/-! ### Strings -/

/-- One sign of a string: a character, or one half of a surrogate pair that stands alone. -/
inductive Sign where
  | char (c : Char)
  | half (unit : Nat)
deriving DecidableEq

/-- The signs of a text. -/
def signs (s : String) : List Sign := s.toList.map .char

/-- The hexadecimal digits, with letters in capitals or not. -/
def hexDigits (capital : Bool) : List Char :=
  ['0', '1', '2', '3', '4', '5', '6', '7', '8', '9']
    ++ if capital then ['A', 'B', 'C', 'D', 'E', 'F'] else ['a', 'b', 'c', 'd', 'e', 'f']

/-- `c` is a hexadecimal digit of value `n`. -/
def HexDigit (c : Char) (n : Nat) : Prop :=
  ∃ capital, (hexDigits capital)[n]? = some c

/-- Four hexadecimal digits and the number that they denote. -/
inductive HexUnit : List Char → Nat → Prop
  | of {a b c d : Char} {x y z w : Nat} (ha : HexDigit a x) (hb : HexDigit b y)
      (hc : HexDigit c z) (hd : HexDigit d w) :
      HexUnit [a, b, c, d] (16 * (16 * (16 * x + y) + z) + w)

/-- The letters of escapes, and the characters for which they stand. -/
def escapes : List (Char × Char) :=
  [('"', '"'), ('\\', '\\'), ('/', '/'), ('b', '\x08'), ('f', '\x0c'), ('n', '\n'), ('r', '\r'),
    ('t', '\t')]

/-- The first half of the surrogate pair of a character. -/
def leadUnit (c : Char) : Nat := 0xD800 + (c.toNat - 0x10000) / 0x400

/-- The second half of the surrogate pair of a character. -/
def trailUnit (c : Char) : Nat := 0xDC00 + (c.toNat - 0x10000) % 0x400

/-- How a string can be spelled between its quotation marks. -/
inductive Spelled : List Sign → List Char → Prop
  /-- The empty string. -/
  | nil : Spelled [] []
  /-- A character may stand for itself, unless it is a quotation mark, a backslash or a control
  character. -/
  | plain {c : Char} {signs : List Sign} {cs : List Char} (hcontrol : 0x20 ≤ c.toNat)
      (hmark : c ≠ '"') (hslash : c ≠ '\\') (h : Spelled signs cs) :
      Spelled (.char c :: signs) (c :: cs)
  /-- Some characters may be spelled by a letter. -/
  | letter {d c : Char} {signs : List Sign} {cs : List Char} (hd : (d, c) ∈ escapes)
      (h : Spelled signs cs) : Spelled (.char c :: signs) ('\\' :: d :: cs)
  /-- A character may be spelled by its number, if that has four digits at most. -/
  | unit {c : Char} {digits : List Char} {signs : List Sign} {cs : List Char}
      (hc : c.toNat < 0x10000) (hdigits : HexUnit digits c.toNat) (h : Spelled signs cs) :
      Spelled (.char c :: signs) ('\\' :: 'u' :: (digits ++ cs))
  /-- Any other character may be spelled by its surrogate pair. -/
  | pair {c : Char} {lead trail : List Char} {signs : List Sign} {cs : List Char}
      (hc : 0x10000 ≤ c.toNat) (hlead : HexUnit lead (leadUnit c))
      (htrail : HexUnit trail (trailUnit c)) (h : Spelled signs cs) :
      Spelled (.char c :: signs) ('\\' :: 'u' :: (lead ++ '\\' :: 'u' :: (trail ++ cs)))
  /-- One half of a surrogate pair may stand alone. -/
  | half {n : Nat} {digits : List Char} {signs : List Sign} {cs : List Char} (hlow : 0xD800 ≤ n)
      (hhigh : n ≤ 0xDFFF) (hdigits : HexUnit digits n) (h : Spelled signs cs) :
      Spelled (.half n :: signs) ('\\' :: 'u' :: (digits ++ cs))

/-! ### Numbers -/

/-- The character of a decimal digit. -/
def digitChar (d : Fin 10) : Char := d.val.digitChar

/-- An exponent as it is written; it has at least one digit. -/
structure Exponent where
  /-- Whether the mark is a capital letter. -/
  capital : Bool
  /-- Whether the sign is a minus, if there is a sign. -/
  below : Option Bool
  /-- The first digit. -/
  first : Fin 10
  /-- The other digits. -/
  others : List (Fin 10)

/-- The characters of an exponent. -/
def Exponent.chars (e : Exponent) : List Char :=
  (if e.capital then 'E' else 'e')
    :: ((e.below.map fun below => if below then '-' else '+').toList
      ++ (e.first :: e.others).map digitChar)

/-- A number as it is written. -/
structure Numeral where
  /-- Whether there is a minus. -/
  negative : Bool
  /-- The whole part, which is written without zeros in front. -/
  whole : Nat
  /-- The digits of the fraction; none if there is no fraction. -/
  fraction : List (Fin 10)
  /-- The exponent. -/
  exponent : Option Exponent

namespace Numeral

/-- The whole number without a sign. -/
def natural (n : Nat) : Numeral := ⟨false, n, [], none⟩

/-- The characters of a fraction. -/
def fractionChars : List (Fin 10) → List Char
  | [] => []
  | d :: ds => '.' :: (d :: ds).map digitChar

/-- The characters of a number behind its sign. -/
def unsigned (n : Numeral) : List Char :=
  Digits.ofNat n.whole ++ (fractionChars n.fraction ++ (n.exponent.map Exponent.chars).getD [])

/-- The characters of a number. -/
def chars (n : Numeral) : List Char :=
  if n.negative then '-' :: n.unsigned else n.unsigned

theorem chars_natural (n : Nat) : (natural n).chars = Digits.ofNat n := by
  simp [chars, unsigned, natural, fractionChars]

end Numeral

/-! ### Values -/

/-- A value of any kind; the members of an object keep their order. -/
inductive Tree where
  | null
  | boolean (on : Bool)
  | number (n : Numeral)
  | string (signs : List Sign)
  | list (items : List Tree)
  | object (members : List (List Sign × Tree))

namespace Tree

/-- A text as a value. -/
def text (s : String) : Tree := .string (signs s)

/-- A whole number as a value. -/
def natural (n : Nat) : Tree := .number (.natural n)

/-- Members whose keys are texts. -/
def textKeys (members : List (String × Tree)) : List (List Sign × Tree) :=
  members.map fun member => (signs member.1, member.2)

theorem textKeys_cons (key : String) (value : Tree) (members : List (String × Tree)) :
    textKeys ((key, value) :: members) = (signs key, value) :: textKeys members := rfl

/-- An object whose keys are texts. -/
def record (members : List (String × Tree)) : Tree := .object (textKeys members)

end Tree

/-- What divides an item or a member from the one before it. -/
def separator (first : Bool) : List Char := if first then [] else [',']

/-- The characters of a truth value. -/
def booleanChars (on : Bool) : List Char :=
  if on then ['t', 'r', 'u', 'e'] else ['f', 'a', 'l', 's', 'e']

mutual

/-- The texts of a value. -/
inductive Written : Tree → List Char → Prop
  | null : Written .null ['n', 'u', 'l', 'l']
  | boolean (on : Bool) : Written (.boolean on) (booleanChars on)
  | number (n : Numeral) : Written (.number n) n.chars
  | string {signs : List Sign} {cs : List Char} (h : Spelled signs cs) :
      Written (.string signs) ('"' :: (cs ++ ['"']))
  | list {items : List Tree} {cs : List Char} (h : WrittenItems true items cs) :
      Written (.list items) ('[' :: (cs ++ [']']))
  | object {members : List (List Sign × Tree)} {cs : List Char}
      (h : WrittenMembers true members cs) : Written (.object members) ('\x7b' :: (cs ++ ['\x7d']))

/-- The texts of the items of a list up to its end; a comma is in front of each of them, of the
first one only if it is not the first of the list. -/
inductive WrittenItems : (first : Bool) → List Tree → List Char → Prop
  | done {first : Bool} {a : List Char} (ha : Blank a) : WrittenItems first [] a
  | next {first : Bool} {item : Tree} {items : List Tree} {a b text rest : List Char}
      (ha : Blank a) (hb : Blank b) (hitem : Written item text)
      (hrest : WrittenItems false items rest) :
      WrittenItems first (item :: items) (a ++ (separator first ++ (b ++ (text ++ rest))))

/-- The texts of the members of an object up to its end. -/
inductive WrittenMembers : (first : Bool) → List (List Sign × Tree) → List Char → Prop
  | done {first : Bool} {a : List Char} (ha : Blank a) : WrittenMembers first [] a
  | next {first : Bool} {key : List Sign} {value : Tree} {members : List (List Sign × Tree)}
      {a b c d spelling text rest : List Char} (ha : Blank a) (hb : Blank b) (hc : Blank c)
      (hd : Blank d) (hkey : Spelled key spelling) (hvalue : Written value text)
      (hrest : WrittenMembers false members rest) :
      WrittenMembers first ((key, value) :: members)
        (a ++ (separator first ++ (b ++ ('"' :: (spelling ++ ('"' :: (c ++ (':' :: (d ++ (text
          ++ rest))))))))))

end

theorem Written.of_eq {tree : Tree} {cs ds : List Char} (h : Written tree cs) (heq : cs = ds) :
    Written tree ds := heq ▸ h

end PageImages.Json
