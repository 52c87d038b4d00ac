import PageImages.Binary.Basic
import PageImages.Text.Digits

/-!
**Floating-point values as decimal text.**

A text is read as the value nearest to the number it denotes.  A value is written with the fewest
significant digits that read back as it, and among those with the nearest ones.

Main definitions:

* `Binary.ofDecimal` — the value nearest to a decimal number;
* `Binary.parse?` — the value of a text;
* `Binary.shortest` — the fewest digits that read back;
* `Binary.positional` — the text without an exponent;
* `Binary.compact` — the text with an exponent for large and small values.
-/

set_option autoImplicit false

namespace PageImages.Binary

variable {f : Format}

/-! ### Reading -/

/-- The value nearest to `significand · 10 ^ exponent`. -/
def ofDecimal (negative : Bool) (significand : Nat) (exponent : Int) : Binary f :=
  let magnitude := (Digits.ofNat significand).length + exponent
  if significand = 0 then .finite negative 0
  else if magnitude > f.range then .infinite negative
  else if magnitude < -(f.scale : Int) then .finite negative 0
  else if 0 ≤ exponent then
    ofQuotient negative (significand * Nat.pow 10 exponent.toNat * f.one) 1
  else ofQuotient negative (significand * f.one) (Nat.pow 10 (-exponent).toNat)

/-- The exponent after the mark `e`: digits with an optional sign, and nothing after them. -/
def parseExponent? (cs : List Char) : Option Int :=
  let (negative, digits) :=
    match cs with
    | '-' :: rest => (true, rest)
    | '+' :: rest => (false, rest)
    | _ => (false, cs)
  if digits.isEmpty || !digits.all Digits.isDigit then none
  else some (signed negative (Digits.toNat digits))

/-- The value of an unsigned decimal text: digits with at most one point among or beside them, and
an optional exponent. -/
def parseUnsigned? (negative : Bool) (cs : List Char) : Option (Binary f) :=
  let (whole, rest) := Digits.span cs
  let (fraction, rest) :=
    match rest with
    | '.' :: rest => Digits.span rest
    | _ => ([], rest)
  if whole.isEmpty && fraction.isEmpty then none
  else
    let significand := Digits.toNat (whole ++ fraction)
    match rest with
    | [] => some (ofDecimal negative significand (-(fraction.length : Int)))
    | mark :: rest =>
      if mark = 'e' || mark = 'E' then
        (parseExponent? rest).map fun e => ofDecimal negative significand (e - fraction.length)
      else none

/-- The value of a text: a decimal number with an optional sign, or a word for an infinite value or
for no number, in letters of any case. -/
def parse? (text : String) : Option (Binary f) :=
  let (negative, cs) :=
    match text.toList with
    | '-' :: rest => (true, rest)
    | '+' :: rest => (false, rest)
    | cs => (false, cs)
  let word := String.ofList (cs.map Char.toLower)
  if word = "inf" || word = "infinity" then some (.infinite negative)
  else if word = "nan" then some .nan
  else parseUnsigned? negative cs

/-! ### The fewest digits -/

/-- The number of decimal places before the first significant digit of `num / den`, a number that
lies between zero and one. -/
def leadingZeros (den : Nat) : (fuel : Nat) → (num : Nat) → Nat
  | 0, _ => 0
  | fuel + 1, num => if den ≤ 10 * num then 0 else leadingZeros den fuel (10 * num) + 1

/-- The exponent `e` for which `units` lies from `10 ^ (e - 1)` up to, but not including,
`10 ^ e`. -/
def decimalMagnitude (f : Format) (units : Nat) : Int :=
  if f.one ≤ units then (Digits.ofNat (units / f.one)).length
  else -(leadingZeros f.one f.scale units : Int)

/-- Whether the decimal number `digits · 10 ^ exponent` reads as the value of `units`: whether it
lies in the interval of numbers that round to it, the ends included when the last significant bit is
zero. -/
def readsAs (f : Format) (units digits : Nat) (exponent : Int) : Bool :=
  let surplus := surplusBits f.precision units
  let num := units * Nat.pow 10 (-exponent).toNat
  let point := digits * (f.one * Nat.pow 10 exponent.toNat)
  let step := Nat.pow 2 surplus * Nat.pow 10 (-exponent).toNat
  let closed := units / Nat.pow 2 surplus % 2 = 0
  let edge := 0 < surplus && units = Nat.pow 2 units.log2
  if num ≤ point then
    let twice := 2 * (point - num)
    twice < step || (closed && twice = step)
  else
    let twice := 2 * (num - point)
    let step := if edge then step / 2 else step
    twice < step || (closed && twice = step)

/-- The decimal number with `count` digits that is nearest to the value of `units`, if one of its two
neighbours with so many digits reads back.  `upOnTie down` says whether a number in the middle
between the neighbours `down` and `down + 1` goes up. -/
def withDigits? (f : Format) (upOnTie : Nat → Bool) (units count : Nat) : Option (Nat × Int) :=
  let exponent := decimalMagnitude f units - count
  let num := units * Nat.pow 10 (-exponent).toNat
  let den := f.one * Nat.pow 10 exponent.toNat
  let down := num / den
  let twice := 2 * (num % den)
  let up := twice > den || (twice = den && upOnTie down)
  match readsAs f units down exponent, readsAs f units (down + 1) exponent with
  | true, true => some (if up then down + 1 else down, exponent)
  | true, false => some (down, exponent)
  | false, true => some (down + 1, exponent)
  | false, false => none

/-- Moves the zeros at the end of a significand into the exponent. -/
def dropZeros : (fuel : Nat) → Nat × Int → Nat × Int
  | 0, d => d
  | fuel + 1, (digits, exponent) =>
    if digits ≠ 0 && digits % 10 = 0 then dropZeros fuel (digits / 10, exponent + 1)
    else (digits, exponent)

/-- The significand and exponent of the shortest decimal number that reads back as the value of
`units`. -/
def shortest (f : Format) (upOnTie : Nat → Bool) (units : Nat) : Nat × Int :=
  if units = 0 then (0, 0)
  else
    let found := (List.range' 1 17).findSome? (withDigits? f upOnTie units)
    dropZeros 20 (found.getD (units / f.one, 0))

/-! ### Writing -/

/-- The digits of `digits · 10 ^ exponent` with a point where it belongs, and without one for a whole
number. -/
def layout (digits : List Char) (exponent : Int) : List Char :=
  let whole := digits.length + exponent
  if 0 ≤ exponent then digits ++ List.replicate exponent.toNat '0'
  else if 0 < whole then digits.take whole.toNat ++ '.' :: digits.drop whole.toNat
  else '0' :: '.' :: (List.replicate (-whole).toNat '0' ++ digits)

/-- A minus sign for a negative value. -/
def sign (negative : Bool) : List Char :=
  if negative then ['-'] else []

/-- The text of a value without an exponent, a middle going up: whole numbers have no point, and the
sign of a negative zero is kept. -/
def positional : Binary f → String
  | .finite negative units =>
    let (digits, exponent) := shortest f (fun _ => true) units
    String.ofList (sign negative ++ layout (Digits.ofNat digits) exponent)
  | .infinite negative => String.ofList (sign negative ++ "inf".toList)
  | .nan => "NaN"

/-- The digits with a point after the first one, and the exponent with a sign. -/
def scientific (digits : List Char) (exponent : Int) : List Char :=
  let power := exponent + digits.length - 1
  let mantissa :=
    match digits with
    | [] => []
    | [d] => [d]
    | d :: rest => d :: '.' :: rest
  mantissa ++ 'e' :: (if power < 0 then '-' else '+') :: Digits.ofNat power.natAbs

/-- The text of a value with a point or an exponent always, a middle going to the even neighbour:
positional from `0.00001` up to sixteen whole digits, and scientific beyond. -/
def compact : Binary f → String
  | .finite negative units =>
    let (digits, exponent) := shortest f (fun down => down % 2 = 1) units
    let ds := Digits.ofNat digits
    let power := exponent + ds.length - 1
    let body :=
      if power < -5 || 15 < power then scientific ds exponent
      else if 0 ≤ exponent then layout ds exponent ++ ['.', '0']
      else layout ds exponent
    String.ofList (sign negative ++ body)
  | .infinite negative => String.ofList (sign negative ++ "inf".toList)
  | .nan => "NaN"

end PageImages.Binary
