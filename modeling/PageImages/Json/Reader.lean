import PageImages.Json.Skip
import PageImages.Path

/-!
**Readers of typed values.**

A value is read straight from the text into the type that is wanted; what stands there instead is
named in the refusal.  A record is read from an object with its field names as keys, in any order,
or from a list of its fields in the order of their declaration; members with other keys are passed
over.

Main definitions:

* `Json.natural`, `Json.real`, `Json.boolean`, `Json.text`, `Json.path`, `Json.optional`,
  `Json.list` — readers of plain values and lists;
* `Json.Shape`, `Json.record` — the form of a record, and its reader;
* `Json.choice`, `Json.tagged` — one of several names, alone or with a record;
* `Json.decode` — a whole text as one value.
-/

set_option autoImplicit false

namespace PageImages.Json

variable {α β σ : Type}

/-- A reader whose value is changed by `g`. -/
def Reader.map (g : α → β) (r : Reader α) : Reader β := fun cs =>
  match r cs with
  | .ok (a, rest) => .ok (g a, rest)
  | .error failure => .error failure

/-! ### What stands there instead -/

/-- The refusal of a number of the wrong kind. -/
def numberMismatch (expected : String) :
    Except Failure (Number × List Char) → Failure
  | .ok (n, rest) => .after (.wrongType n.found expected) rest
  | .error failure => failure

/-- The refusal of a fixed word of the wrong kind. -/
def wordMismatch (found : Found) (expected : String) : Except Failure (List Char) → Failure
  | .ok rest => .after (.wrongType found expected) rest
  | .error failure => failure

/-- The refusal of the value at the head of a text, where `expected` was wanted. -/
def mismatch (expected : String) (cs : List Char) : Failure :=
  match cs with
  | [] => .before .endInValue []
  | c :: rest =>
    if c = 'n' then wordMismatch .null expected (word ['u', 'l', 'l'] rest)
    else if c = 't' then wordMismatch (.boolean true) expected (word ['r', 'u', 'e'] rest)
    else if c = 'f' then wordMismatch (.boolean false) expected (word ['a', 'l', 's', 'e'] rest)
    else if c = '-' then numberMismatch expected (number true rest)
    else if Digits.isDigit c then numberMismatch expected (number false cs)
    else if c = '"' then
      match string rest with
      | .ok (s, rest) => .after (.wrongType (.text s) expected) rest
      | .error failure => failure
    else if c = '[' then .after (.wrongType .list expected) cs
    else if c = '\x7b' then .after (.wrongType .object expected) cs
    else .before .valueExpected cs

/-! ### Plain values -/

/-- Reads a number, where `expected` is wanted. -/
def anyNumber (expected : String) : Reader Number := fun cs =>
  match skipBlanks cs with
  | [] => .error (.before .endInValue [])
  | c :: rest =>
    if c = '-' then number true rest
    else if Digits.isDigit c then number false (c :: rest)
    else .error (mismatch expected (c :: rest))

/-- Reads a whole number from zero to `most`. -/
def natural (expected : String) (most : Nat) : Reader Nat := fun cs =>
  match anyNumber expected cs with
  | .error failure => .error failure
  | .ok (.natural n, rest) =>
    if n ≤ most then .ok (n, rest)
    else .error (.after (.wrongValue (.integer n) expected) rest)
  | .ok (.negative i, rest) => .error (.after (.wrongValue (.integer i) expected) rest)
  | .ok (.real x, rest) => .error (.after (.wrongType (.real x) expected) rest)

/-- Reads a whole number of 64 bits. -/
def count : Reader Nat := natural "usize" (UInt64.size - 1)

/-- Reads a whole number of 32 bits. -/
def word32 : Reader Nat := natural "u32" (UInt32.size - 1)

/-- Reads a whole number of 8 bits. -/
def octet : Reader Nat := natural "u8" (UInt8.size - 1)

/-- Reads a number as a floating-point value. -/
def real : Reader Binary64 := fun cs =>
  match anyNumber "f64" cs with
  | .error failure => .error failure
  | .ok (.natural n, rest) => .ok (Binary.ofNat n, rest)
  | .ok (.negative i, rest) => .ok ((Binary.ofNat i.natAbs).neg, rest)
  | .ok (.real x, rest) => .ok (x, rest)

/-- Reads a truth value. -/
def boolean : Reader Bool := fun cs =>
  match skipBlanks cs with
  | [] => .error (.before .endInValue [])
  | c :: rest =>
    if c = 't' then (word ['r', 'u', 'e'] rest).map (true, ·)
    else if c = 'f' then (word ['a', 'l', 's', 'e'] rest).map (false, ·)
    else .error (mismatch "a boolean" (c :: rest))

/-- Reads a string with its quotation marks, where `expected` is wanted. -/
def quotedText (expected : String) : Reader String := fun cs =>
  match skipBlanks cs with
  | [] => .error (.before .endInValue [])
  | c :: rest =>
    if c = '"' then string rest else .error (mismatch expected (c :: rest))

/-- Reads a text. -/
def text : Reader String := quotedText "a string"

/-- Reads a path, which is written as a text. -/
def path : Reader Path := (quotedText "path string").map Path.ofString

/-- Reads nothing, which is written `null`. -/
def nothing (expected : String) : Reader Unit := fun cs =>
  match skipBlanks cs with
  | [] => .error (.before .endInValue [])
  | c :: rest =>
    if c = 'n' then (word ['u', 'l', 'l'] rest).map ((), ·)
    else .error (mismatch expected (c :: rest))

/-- Reads a value or `null`. -/
def optional (r : Reader α) : Reader (Option α) := fun cs =>
  match skipBlanks cs with
  | 'n' :: rest => (word ['u', 'l', 'l'] rest).map (none, ·)
  | cs => r.map some cs

/-! ### Lists and objects -/

/-- Goes to the next item of a list: the text at the item, or nothing at the end of the list. -/
def nextItem (first : Bool) (cs : List Char) : Except Failure (Option (List Char)) :=
  match skipBlanks cs with
  | [] => .error (.before .endInList [])
  | c :: rest =>
    if c = ']' then .ok none
    else if first then .ok (some (c :: rest))
    else if c = ',' then
      match skipBlanks rest with
      | [] => .error (.before .endInValue [])
      | d :: tail =>
        if d = ']' then .error (.before .commaAtEnd (d :: tail)) else .ok (some (d :: tail))
    else .error (.before .listContinuationExpected (c :: rest))

/-- Goes to the next member of an object: the text behind the quotation mark that opens its key, or
nothing at the end of the object. -/
def nextKey (first : Bool) (cs : List Char) : Except Failure (Option (List Char)) :=
  match skipBlanks cs with
  | [] => .error (.before .endInObject [])
  | c :: rest =>
    if c = '\x7d' then .ok none
    else if first then
      if c = '"' then .ok (some rest) else .error (.before .keyExpected (c :: rest))
    else if c = ',' then
      match skipBlanks rest with
      | [] => .error (.before .endInValue [])
      | d :: tail =>
        if d = '"' then .ok (some tail)
        else if d = '\x7d' then .error (.before .commaAtEnd (d :: tail))
        else .error (.before .keyExpected (d :: tail))
    else .error (.before .objectContinuationExpected (c :: rest))

/-- Reads the end of a list. -/
def endList (cs : List Char) : Except Failure (List Char) :=
  match skipBlanks cs with
  | [] => .error (.before .endInList [])
  | c :: rest =>
    if c = ']' then .ok rest
    else if c = ',' then
      match skipBlanks rest with
      | [] => .error (.before .textAfterEnd [])
      | d :: tail =>
        .error (.before (if d = ']' then .commaAtEnd else .textAfterEnd) (d :: tail))
    else .error (.before .textAfterEnd (c :: rest))

/-- Reads the end of an object, of which the last member has been read. -/
def endObject (cs : List Char) : Except Failure (List Char) :=
  match skipBlanks cs with
  | [] => .error (.before .endInObject [])
  | c :: rest =>
    if c = '\x7d' then .ok rest
    else if c = ',' then .error (.before .commaAtEnd (c :: rest))
    else .error (.before .textAfterEnd (c :: rest))

/-- Gives a refusal inside a list the place where the list would go on. -/
def Failure.settleInList : Failure → Failure
  | .placed cause left => .placed cause left
  | .unplaced cause rest =>
    match skipBlanks rest with
    | ']' :: tail => .after cause tail
    | ',' :: tail => .after cause (skipBlanks tail)
    | cs => .after cause cs

/-- Gives a refusal inside an object the place where the object would go on. -/
def Failure.settleInObject : Failure → Failure
  | .placed cause left => .placed cause left
  | .unplaced cause rest =>
    match skipBlanks rest with
    | '\x7d' :: tail => .after cause tail
    | cs => .after cause cs

/-- Reads the items of a list up to its end; `fuel` bounds their number. -/
def items (item : Reader α) : (fuel : Nat) → (first : Bool) → Reader (List α)
  | 0, _, _ => .error (.before .endInList [])
  | fuel + 1, first, cs => do
    match ← nextItem first cs with
    | none => .ok ([], cs)
    | some cs =>
      let (a, cs) ← item cs
      let (as, cs) ← items item fuel false cs
      .ok (a :: as, cs)

/-- Reads a list. -/
def list (item : Reader α) : Reader (List α) := fun cs =>
  match skipBlanks cs with
  | [] => .error (.before .endInValue [])
  | c :: rest =>
    if c = '[' then
      match items item (rest.length + 1) true rest with
      | .error failure => .error failure.settleInList
      | .ok (as, rest) => (endList rest).map (as, ·)
    else .error (mismatch "a sequence" (c :: rest))

/-! ### Records -/

/-- A field of a record that is collected in `σ`. -/
structure Field (σ : Type) where
  /-- The key of the field. -/
  name : String
  /-- Whether an object may leave the field out. -/
  optional : Bool
  /-- Reads the value of the field into the record. -/
  read : Reader (σ → σ)

/-- The form of a record. -/
structure Shape (σ : Type) where
  /-- What the record is called in a refusal. -/
  title : String
  /-- The fields, in the order of their declaration. -/
  fields : List (Field σ)
  /-- The record before any field is read. -/
  initial : σ
  /-- Whether all fields may be left out, at the end of a list too. -/
  lenient : Bool

/-- What a list for the record should look like. -/
def Shape.listTitle (shape : Shape σ) : String :=
  shape.title ++ " with " ++ toString shape.fields.length ++ " elements"

/-- The first field that an object should have had, given the names of those that it has. -/
def Shape.missing? (shape : Shape σ) (seen : List String) : Option String :=
  if shape.lenient then none
  else (shape.fields.find? fun field => !field.optional && !seen.contains field.name).map (·.name)

/-- Reads the members of an object up to its end; `fuel` bounds their number. -/
def members (shape : Shape σ) :
    (fuel : Nat) → (first : Bool) → (seen : List String) → σ → Reader σ
  | 0, _, _, _, _ => .error (.before .endInObject [])
  | fuel + 1, first, seen, s, cs => do
    match ← nextKey first cs with
    | none =>
      match shape.missing? seen with
      | some name => .error (.unplaced (.missingField name) cs)
      | none => .ok (s, cs)
    | some cs =>
      let (key, cs) ← string cs
      match shape.fields.find? (·.name = key) with
      | none => do
        let cs ← skipValue (← colon cs)
        members shape fuel false seen s cs
      | some field =>
        if seen.contains key then .error (.unplaced (.duplicateField key) cs)
        else do
          let (update, cs) ← field.read (← colon cs)
          members shape fuel false (key :: seen) (update s) cs

/-- Reads the fields of a record from the items of a list. -/
def elements (shape : Shape σ) :
    (fields : List (Field σ)) → (index : Nat) → σ → Reader σ
  | [], _, s, cs => .ok (s, cs)
  | field :: fields, index, s, cs => do
    match ← nextItem (index = 0) cs with
    | none =>
      if shape.lenient then .ok (s, cs)
      else .error (.unplaced (.wrongLength index shape.listTitle) cs)
    | some cs =>
      let (update, cs) ← field.read cs
      elements shape fields (index + 1) (update s) cs

/-- Reads a record. -/
def record (shape : Shape σ) : Reader σ := fun cs =>
  match skipBlanks cs with
  | [] => .error (.before .endInValue [])
  | c :: rest =>
    if c = '[' then
      match elements shape shape.fields 0 shape.initial rest with
      | .error failure => .error failure.settleInList
      | .ok (s, rest) => (endList rest).map (s, ·)
    else if c = '\x7b' then
      match members shape (rest.length + 1) true [] shape.initial rest with
      | .error failure => .error failure.settleInObject
      | .ok (s, rest) => (endObject rest).map (s, ·)
    else .error (mismatch shape.title (c :: rest))

/-! ### Variants -/

/-- Reads the name of a variant. -/
def variantName (known : List String) (pick : String → Option α) : Reader α := fun cs => do
  let (name, rest) ← quotedText "variant identifier" cs
  match pick name with
  | some a => .ok (a, rest)
  | none => .error (.after (.unknownVariant name known) rest)

/-- Goes to the key of the object around a variant, at its quotation mark. -/
def variantKey (cs : List Char) : Except Failure (List Char) := do
  match ← nextKey true cs with
  | some rest => .ok ('"' :: rest)
  | none => .error (.before .valueExpected (skipBlanks cs))

/-- Reads the end of the object around a variant. -/
def endVariant (cs : List Char) : Except Failure (List Char) :=
  match skipBlanks cs with
  | [] => .error (.after .endInObject [])
  | c :: rest =>
    if c = '\x7d' then .ok rest else .error (.after .valueExpected (c :: rest))

/-- Reads a variant: its name alone, which `alone` turns into a value, or an object with the name as
its only key, whose value is read by `inside`. -/
def variant (known : List String) (pick : String → Option α)
    (alone : α → List Char → Except Failure β) (inside : α → Reader β) : Reader β := fun cs =>
  match skipBlanks cs with
  | [] => .error (.before .endInValue [])
  | c :: rest =>
    if c = '\x7b' then do
      let (a, rest) ← variantName known pick (← variantKey rest)
      let (b, rest) ← inside a (← colon rest)
      let rest ← endVariant rest
      .ok (b, rest)
    else if c = '"' then do
      let (a, rest) ← variantName known pick (c :: rest)
      let b ← alone a rest
      .ok (b, rest)
    else .error (.before .valueExpected (c :: rest))

/-- Reads one of several names. -/
def choice (known : List String) (pick : String → Option α) : Reader α :=
  variant known pick (fun a _ => .ok a) (fun a => (nothing "unit").map fun _ => a)

/-- Reads one of several names with a record. -/
def tagged (known : List String) (pick : String → Option (Reader α)) : Reader α :=
  variant known pick
    (fun _ rest => .error (.unplaced (.wrongType .bareVariant "struct variant") rest)) id

/-! ### Whole texts -/

/-- Reads one value, with nothing but blanks behind it. -/
def whole (r : Reader α) (cs : List Char) : Except Failure α := do
  let (a, rest) ← r cs
  match skipBlanks rest with
  | [] => .ok a
  | c :: rest => .error (.before .textAfterEnd (c :: rest))

/-- The value of a whole text. -/
def decode (r : Reader α) (s : String) : Except Error α :=
  match whole r s.toList with
  | .ok a => .ok a
  | .error failure => .error (failure.settle s.toList)

end PageImages.Json
