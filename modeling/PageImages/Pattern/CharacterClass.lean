import PageImages.Pattern.Escape

/-!
**Classes of characters in a regular expression.**

A class is written in brackets: characters, ranges, classes by name and further classes, which are
joined, with operators between them.  A hyphen or a closing bracket at the beginning is a character.

How deeply an expression is nested is counted as its height.

Main definitions:

* `Pattern.Tally` — how many parts there are side by side, and the height of the tallest;
* `Pattern.class?` — reads a class and gives its height.
-/

set_option autoImplicit false

namespace PageImages.Pattern

/-! ### Heights -/

/-- Parts that stand side by side. -/
structure Tally where
  /-- The number of parts. -/
  count : Nat
  /-- The height of the tallest. -/
  tallest : Nat

/-- No parts. -/
def Tally.empty : Tally := ⟨0, 0⟩

/-- One part more. -/
def Tally.add (t : Tally) (height : Nat) : Tally := ⟨t.count + 1, max t.tallest height⟩

/-- The height of all parts together, which is one more than the tallest if there are several. -/
def Tally.height (t : Tally) : Nat := if t.count ≤ 1 then t.tallest else t.tallest + 1

/-- A class that is not closed yet. -/
structure OpenClass where
  /-- The height of what stands before the last operator, if there is one. -/
  before : Option Nat
  /-- What stands behind it. -/
  items : Tally
  /-- Whether nothing but hyphens has come so far. -/
  fresh : Bool

namespace OpenClass

/-- A class of which nothing has been read. -/
def start : OpenClass := ⟨none, .empty, true⟩

/-- The height of what the class holds. -/
def height (c : OpenClass) : Nat :=
  match c.before with
  | none => c.items.height
  | some h => max h c.items.height + 1

/-- The class with one item more. -/
def add (c : OpenClass) (height : Nat) : OpenClass := { c with items := c.items.add height }

/-- The class behind an operator. -/
def operator (c : OpenClass) : OpenClass := ⟨some c.height, .empty, false⟩

end OpenClass

/-! ### Items -/

/-- Reads a character or an escape. -/
def member? (flags : Flags) : List Char → Option (Escape × List Char)
  | [] => none
  | c :: rest => if c = '\\' then escape? flags rest else some (.literal false c, rest)

/-- Whether a class may hold a character or an escape. -/
def Escape.isItem (flags : Flags) : Escape → Bool
  | .literal _ c => flags.allowsMember c
  | .shorthand negated => flags.allowsShorthand negated
  | .wordEdge => false
  | .textEdge => false

/-- Whether a class may hold the range from one character to another. -/
def isRange (flags : Flags) : Escape → Escape → Bool
  | .literal _ low, .literal _ high =>
    low ≤ high && flags.allowsMember low && flags.allowsMember high
  | _, _ => false

/-- Reads a character, an escape or a range.  A hyphen makes a range, unless it stands before the end
of the class or another hyphen. -/
def item? (flags : Flags) (cs : List Char) : Option (List Char) := do
  let (first, rest) ← member? flags cs
  let rest := flags.skip rest
  let next ← rest.head?
  let ahead := flags.ahead? rest.tail
  if next ≠ '-' || ahead = some ']' || ahead = some '-' then
    if first.isItem flags then some rest else none
  else
    let (last, rest) ← member? flags (flags.skip rest.tail)
    if isRange flags first last then some rest else none

/-- The names of classes. -/
def classNames : List String :=
  ["alnum", "alpha", "ascii", "blank", "cntrl", "digit", "graph", "lower", "print", "punct", "space",
    "upper", "word", "xdigit"]

/-- Reads a class by name, from behind its opening bracket, and whether it is a complement. -/
def namedClass? (cs : List Char) : Option (Bool × List Char) :=
  match cs with
  | ':' :: rest =>
    let negated := rest.head? = some '^'
    let rest := if negated then rest.tail else rest
    let name := rest.takeWhile (· ≠ ':')
    match rest.drop name.length with
    | ':' :: ']' :: rest =>
      if classNames.contains (String.ofList name) then some (negated, rest) else none
    | _ => none
  | _ => none

/-! ### Classes -/

/-- Reads the mark of a complement behind an opening bracket, if there is one and it is allowed. -/
def complement? (flags : Flags) (cs : List Char) : Option (List Char) :=
  match flags.skip cs with
  | '^' :: rest => if flags.allowsComplement then some rest else none
  | rest => some rest

/-- Reads the rest of a class within the open classes `outer`, and gives the height of the outermost;
`fuel` bounds the number of items. -/
def classFrom? (flags : Flags) :
    (fuel : Nat) → (outer : List OpenClass) → OpenClass → List Char → Option (Nat × List Char)
  | 0, _, _, _ => none
  | fuel + 1, outer, current, cs => do
    let c :: rest := flags.skip cs | none
    if current.fresh && c = '-' then
      if flags.allowsMember c then classFrom? flags fuel outer (current.add 0) rest else none
    else if current.fresh && current.items.count = 0 && c = ']' then
      if flags.allowsMember c then
        classFrom? flags fuel outer { current.add 0 with fresh := false } rest
      else none
    else
      let current := { current with fresh := false }
      if c = '[' then
        match namedClass? rest with
        | some (negated, rest) =>
          if flags.allowsNamed negated then classFrom? flags fuel outer (current.add 0) rest
          else none
        | none => classFrom? flags fuel (current :: outer) .start (← complement? flags rest)
      else if c = ']' then
        match outer with
        | [] => some (current.height + 1, rest)
        | parent :: outer => classFrom? flags fuel outer (parent.add (current.height + 1)) rest
      else if (c = '&' || c = '-' || c = '~') && rest.head? = some c then
        classFrom? flags fuel outer current.operator rest.tail
      else classFrom? flags fuel outer (current.add 0) (← item? flags (c :: rest))

/-- Reads a class from behind its opening bracket, and gives its height. -/
def class? (flags : Flags) (cs : List Char) : Option (Nat × List Char) := do
  classFrom? flags (cs.length + 1) [] .start (← complement? flags cs)

end PageImages.Pattern
