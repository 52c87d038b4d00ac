import PageImages.Pattern.CharacterClass
import PageImages.Text.Alphanumeric

/-!
**Regular expressions.**

Whether an expression is well formed is decided from left to right: what repeats needs something to
repeat, groups and classes are closed, the names of groups differ, and what is written is allowed by
the flags in force.  An expression is not nested too deeply.  How often something repeats cannot be
given as a number, so that there are no braces.

Main definitions:

* `Pattern.Level`, `Pattern.Reading` — an open group, and how far an expression has been read;
* `Pattern.step?` — reads one part more;
* `Pattern.isWellFormed` — whether an expression is well formed.
-/

set_option autoImplicit false

namespace PageImages.Pattern

/-! ### Groups -/

/-- A group that is not closed yet, or the whole expression. -/
structure Level where
  /-- The flags that are in force again behind the group. -/
  outside : Flags
  /-- The height of the tallest alternative that is complete, if there is one. -/
  alternatives : Option Nat
  /-- The parts of the last alternative. -/
  parts : Tally
  /-- The height of the last part, if there is one that can be repeated. -/
  last : Option Nat

namespace Level

/-- A group of which nothing has been read. -/
def start (outside : Flags) : Level := ⟨outside, none, .empty, none⟩

/-- The group with one part more. -/
def add (level : Level) (height : Nat) : Level :=
  { level with parts := level.parts.add height, last := some height }

/-- The group with one part more that only switches flags. -/
def addSwitch (level : Level) : Level :=
  { level with parts := level.parts.add 0, last := none }

/-- The group with its last part repeated. -/
def repeat? (level : Level) : Option Level :=
  level.last.map fun height =>
    { level with
      parts := ⟨level.parts.count, max level.parts.tallest (height + 1)⟩
      last := some (height + 1) }

/-- The group with its last alternative complete. -/
def alternative (level : Level) : Level :=
  { level with
    alternatives := some (max (level.alternatives.getD 0) level.parts.height)
    parts := .empty
    last := none }

/-- The height of what the group holds. -/
def height (level : Level) : Nat :=
  match level.alternatives with
  | none => level.parts.height
  | some h => max h level.parts.height + 1

end Level

/-- What an opening mark begins. -/
inductive Opening where
  /-- A group in which some flags are in force, perhaps with a name. -/
  | group (flags : Flags) (name : Option (List Char))
  /-- No group, but other flags in force for the rest of the group around it. -/
  | switch (flags : Flags)

/-- Whether the name of a group can begin with a character. -/
def beginsName (c : Char) : Bool := c = '_' || Text.isAlphabetic c

/-- Whether the name of a group can go on with a character. -/
def continuesName (c : Char) : Bool :=
  "_.[]".toList.contains c || Text.isAlphanumeric c

/-- Reads the name of a group up to its end. -/
def groupName? (cs : List Char) : Option (List Char × List Char) :=
  let name := cs.takeWhile (· ≠ '>')
  match name, cs.drop name.length with
  | first :: others, _ :: rest =>
    if beginsName first && others.all continuesName then some (name, rest) else none
  | _, _ => none

/-- Reads what follows an opening mark. -/
def opening? (flags : Flags) (cs : List Char) : Option (Opening × List Char) :=
  match flags.skip cs with
  | '?' :: 'P' :: '<' :: rest =>
    (groupName? rest).map fun (name, rest) => (.group flags (some name), rest)
  | '?' :: '<' :: rest =>
    (groupName? rest).map fun (name, rest) => (.group flags (some name), rest)
  | '?' :: rest =>
    let switches := rest.takeWhile fun c => c ≠ ':' && c ≠ ')'
    match rest.drop switches.length with
    | [] => none
    | mark :: rest =>
      if !Flags.areSwitches switches then none
      else if mark = ':' then some (.group (flags.switch switches) none, rest)
      else if switches.isEmpty then none
      else some (.switch (flags.switch switches), rest)
  | rest => some (.group flags none, rest)

/-! ### Expressions -/

/-- How far an expression has been read. -/
structure Reading where
  /-- The flags in force. -/
  flags : Flags
  /-- The names of groups so far. -/
  names : List (List Char)
  /-- The innermost group. -/
  level : Level
  /-- The groups around it. -/
  outer : List Level

namespace Reading

/-- Nothing has been read. -/
def start : Reading := ⟨.initial, [], .start .initial, []⟩

/-- One part more has been read. -/
def add (r : Reading) (height : Nat) : Reading := { r with level := r.level.add height }

/-- One part more has been read, if it is allowed. -/
def addIf? (r : Reading) (allowed : Bool) : Option Reading :=
  if allowed then some (r.add 0) else none

/-- A group begins, or flags are switched. -/
def open? (r : Reading) : Opening → Option Reading
  | .switch flags => some { r with flags := flags, level := r.level.addSwitch }
  | .group flags name =>
    if name.any r.names.contains then none
    else
      some
        { flags := flags
          names := name.toList ++ r.names
          level := .start r.flags
          outer := r.level :: r.outer }

/-- A group ends. -/
def close? (r : Reading) : Option Reading :=
  match r.outer with
  | [] => none
  | parent :: outer =>
    some
      { r with
        flags := r.level.outside
        level := parent.add (r.level.height + 1)
        outer := outer }

/-- An escape has been read. -/
def addEscape? (r : Reading) : Escape → Option Reading
  | .literal octet c => r.addIf? (r.flags.allowsLiteral octet c)
  | .shorthand negated => r.addIf? (r.flags.allowsShorthand negated)
  | .wordEdge => r.addIf? r.flags.allowsWordEdge
  | .textEdge => r.addIf? true

end Reading

/-- The brace before the number of a repetition. -/
def brace : Char := '\x7b'

/-- Reads the part of an expression that begins with a character. -/
def step? (r : Reading) (c : Char) (rest : List Char) : Option (Reading × List Char) := do
  if c = '(' then
    let (opening, rest) ← opening? r.flags rest
    return (← r.open? opening, rest)
  else if c = ')' then return (← r.close?, rest)
  else if c = '|' then return ({ r with level := r.level.alternative }, rest)
  else if c = '[' then
    let (height, rest) ← class? r.flags rest
    return (r.add height, rest)
  else if c = '?' || c = '*' || c = '+' then
    let level ← r.level.repeat?
    return ({ r with level := level }, if rest.head? = some '?' then rest.tail else rest)
  else if c = brace then none
  else if c = '\\' then
    let (escape, rest) ← escape? r.flags rest
    return (← r.addEscape? escape, rest)
  else if c = '.' then return (← r.addIf? r.flags.allowsAny, rest)
  else if c = '^' || c = '$' then return (r.add 0, rest)
  else return (← r.addIf? (r.flags.allowsLiteral false c), rest)

/-- The height of an expression that goes on after what has been read; `fuel` bounds the number of
its parts. -/
def heightFrom? : (fuel : Nat) → Reading → List Char → Option Nat
  | 0, _, _ => none
  | fuel + 1, r, cs =>
    match r.flags.skip cs with
    | [] => if r.outer.isEmpty then some r.level.height else none
    | c :: rest => (step? r c rest).bind fun (r, rest) => heightFrom? fuel r rest

/-- The height of an expression. -/
def height? (cs : List Char) : Option Nat :=
  heightFrom? (cs.length + 1) .start cs

/-- The greatest height of an expression. -/
def greatestHeight : Nat := 250

/-- Whether an expression is well formed. -/
def isWellFormed (cs : List Char) : Bool :=
  (height? cs).any (· ≤ greatestHeight)

end PageImages.Pattern
