import PageImages.Binary.Decimal
import PageImages.Journal
import PageImages.Path
import PageImages.Pattern
import PageImages.Text.Alphanumeric
import PageImages.Text.Blank
import PageImages.Text.Digits

/-!
**Filtering the journal.**

A filter says, by the source of a notice, up to which level notices are shown.  It is a list of
rules, each for the sources that begin with a given text, and perhaps only for the notices that have
a given field; of the rules that apply to a notice, the one with the longest text decides, and of two
with the same text the one that asks for a field.  A filter can be written as a text of rules with
commas between them.

Main definitions:

* `Threshold` — up to which level notices are shown;
* `Filter`, `Filter.allows` — a filter, and whether it shows a notice;
* `Filter.parse?` — the filter of a text.
-/

set_option autoImplicit false

namespace PageImages

/-- Up to which level notices are shown; nothing at all without a level. -/
abbrev Threshold := Option Level

/-- Whether a level is within a threshold. -/
def Threshold.admits (threshold : Threshold) (level : Level) : Bool :=
  match threshold with
  | some most => level.rank ≤ most.rank
  | none => false

/-- A rule for the sources that begin with a text. -/
structure Rule where
  /-- What the sources begin with. -/
  start : Octets
  /-- The field that the notices must have, if there is one. -/
  field : Option Octets
  /-- Up to which level their notices are shown. -/
  threshold : Threshold

/-- The one field that every notice has. -/
def Notice.field : Octets := Utf8.encode "message"

/-- Whether a rule is about a notice. -/
def Rule.concerns (rule : Rule) (notice : Notice) : Bool :=
  rule.start.isPrefixOf (Utf8.encode notice.source) && rule.field.all (· == Notice.field)

/-- Whether a rule says more precisely than another what it is about, or no less precisely. -/
def Rule.refines (rule other : Rule) : Bool :=
  other.start.length < rule.start.length
    || (other.start.length == rule.start.length && (rule.field.isSome || other.field.isNone))

/-- A filter of notices. -/
abbrev Filter := List Rule

namespace Filter

/-- The filter that shows notices of all sources up to a level. -/
def upTo (level : Level) : Filter := [⟨[], none, some level⟩]

/-- The rule that decides about a notice: the most precise, and of several the last. -/
def decisive? (filter : Filter) (notice : Notice) : Option Rule :=
  filter.foldl
    (fun best rule =>
      if rule.concerns notice && best.all rule.refines then some rule else best)
    none

/-- Whether a filter shows a notice. -/
def allows (filter : Filter) (notice : Notice) : Bool :=
  match filter.decisive? notice with
  | some rule => rule.threshold.admits notice.level
  | none => false

/-! ### Levels -/

/-- The threshold of a word or a number from 0 to 5. -/
def threshold? (word : List Char) : Option Threshold :=
  let digits := match word with
    | '+' :: rest => rest
    | _ => word
  if !digits.isEmpty && digits.all Digits.isDigit then
    match Digits.toNat digits with
    | 0 => some none
    | 1 => some (some .error)
    | 2 => some (some .warn)
    | 3 => some (some .info)
    | 4 => some (some .debug)
    | 5 => some (some .trace)
    | _ => none
  else
    match String.ofList (word.map Char.toLower) with
    | "off" => some none
    | "error" => some (some .error)
    | "warn" => some (some .warn)
    | "info" => some (some .info)
    | "debug" => some (some .debug)
    | "trace" => some (some .trace)
    | _ => none

/-- The level behind the equals sign of a rule; all levels where it is left out. -/
def levelPart? (word : Octets) : Option Threshold :=
  if word.isEmpty then some (some .trace) else threshold? (Utf8.lossyChars word)

/-! ### Rules

A rule is written as a source, a span with a field in brackets, and a level behind an equals sign; any
of these may be missing.  The marks between them are found in the rule without the blanks at its ends,
and what stands between the marks is then taken, by their positions, from the rule with its blanks. -/

/-- One rule as it is written. -/
structure RuleText where
  /-- The octets between two commas. -/
  whole : Octets
  /-- The octets without the blanks at the ends. -/
  core : Octets

/-- The comma between rules. -/
def comma : UInt8 := 0x2C

/-- The mark before a level. -/
def equals : UInt8 := 0x3D

/-- The mark before a span. -/
def spanOpen : UInt8 := 0x5B

/-- The mark behind a span. -/
def spanClose : UInt8 := 0x5D

/-- The mark before a field. -/
def fieldOpen : UInt8 := 0x7B

/-- The mark behind a field. -/
def fieldClose : UInt8 := 0x7D

/-- The octets of a piece. -/
def RuleText.ofOctets (whole : Octets) : RuleText :=
  ⟨whole, Utf8.encodeChars (Text.trim (Utf8.lossyChars whole))⟩

/-- The octets of a piece from one position up to another. -/
def RuleText.between (piece : RuleText) (start stop : Nat) : Octets :=
  (piece.whole.drop start).take (stop - start)

/-- The octets of a piece from a position on. -/
def RuleText.behind (piece : RuleText) (start : Nat) : Octets :=
  piece.whole.drop start

/-- The first of some marks from a position on, with where it is. -/
def RuleText.mark? (piece : RuleText) (marks : List UInt8) (start : Nat) : Option (Nat × UInt8) :=
  let passed := (piece.core.drop start).takeWhile fun b => !marks.contains b
  piece.core[start + passed.length]?.map fun mark => (start + passed.length, mark)

/-- Whether a rule may begin with a character. -/
def mayBegin (c : Char) : Bool :=
  Text.isAlphanumeric c || c = '-' || c = ':' || c = '_'

/-- The threshold of a rule whose source and span end before a position: all levels, or the level
behind an equals sign. -/
def closing? (piece : RuleText) (stop : Nat) : Option Threshold :=
  match piece.core[stop]? with
  | none => some (some .trace)
  | some mark => if mark = equals then levelPart? (piece.behind (stop + 1)) else none

/-- Whether the value that a field is to have can be asked for: no value, a number or a pattern. -/
def valueAllowed (field : Octets) : Bool :=
  match Path.pieces equals field with
  | _ :: value :: _ =>
    let cs := Utf8.lossyChars value
    (Binary.parse? (String.ofList cs) : Option Binary64).isSome || Pattern.isWellFormed cs
  | _ => true

/-- The rules of a piece for the sources that begin with `source`, from behind the mark before its
span.  No notice is in a span, so that a rule that asks for one shows none; nor has a notice a field
of a given value. -/
def spanRules? (piece : RuleText) (source : Octets) (start : Nat) : Option (List Rule) := do
  let (stop, mark) ← piece.mark? [spanClose, fieldOpen] start
  if mark = spanClose then
    let _ ← closing? piece (stop + 1)
    return []
  else
    let (fieldStop, _) ← piece.mark? [fieldClose] (stop + 1)
    let field := piece.between (stop + 1) fieldStop
    if field.isEmpty || !valueAllowed field || piece.core[fieldStop + 1]? ≠ some spanClose then none
    else
      let threshold ← closing? piece (fieldStop + 2)
      if start < stop || field.contains equals then return []
      else return [⟨source, some field, threshold⟩]

/-- The rules of a piece.  A word is a level for all sources, or else a source with all its
levels. -/
def rules? (piece : RuleText) : Option (List Rule) := do
  let first ← (Utf8.lossyChars piece.core).head?
  if first = '[' then spanRules? piece [] 1
  else if !mayBegin first then none
  else
    match piece.mark? [equals, spanOpen] 0 with
    | none =>
      match threshold? (Utf8.lossyChars piece.whole) with
      | some threshold => return [⟨[], none, threshold⟩]
      | none => return [⟨piece.whole, none, some .trace⟩]
    | some (stop, mark) =>
      let source := piece.between 0 stop
      if mark = equals then
        let threshold ← levelPart? (piece.behind (stop + 1))
        return [⟨source, none, threshold⟩]
      else spanRules? piece source (stop + 1)

/-- The filter of a text of rules, if each of them is well formed.  Empty pieces are passed over; a
text without pieces shows nothing. -/
def parse? (text : Octets) : Option Filter :=
  let pieces := (Path.pieces comma text).filter fun piece => !piece.isEmpty
  (pieces.mapM fun piece => rules? (.ofOctets piece)).map List.flatten

end Filter

end PageImages
