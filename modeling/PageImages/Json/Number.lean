import PageImages.Json.Scan

/-!
**Numbers in JSON.**

A whole number that fits into 64 bits is kept exactly.  Any other number is the product or quotient
of its leading digits, as many as fit into 64 bits, and a power of ten, each rounded once; it need
not be the value nearest to the decimal number.

Main definitions:

* `Json.Number` — a number as it is read;
* `Json.number` — reads a number from behind its sign;
* `Json.skipNumber` — passes over a number from behind its sign.
-/

set_option autoImplicit false

namespace PageImages.Json

/-- A number as it is read. -/
inductive Number where
  /-- A whole number without a sign. -/
  | natural (n : Nat)
  /-- A whole number below zero. -/
  | negative (i : Int)
  /-- Any other number. -/
  | real (x : Binary64)

/-- A number, seen as what stands in the text. -/
def Number.found : Number → Found
  | .natural n => .integer n
  | .negative i => .integer i
  | .real x => .real x

/-- The greatest whole number that is kept exactly. -/
def greatestNatural : Nat := UInt64.size - 1

/-- The greatest exponent whose digits are all taken in. -/
def greatestExponent : Nat := Nat.pow 2 31 - 1

/-- Takes digits into a number as long as it does not pass `limit`; the number and how many digits
were left over. -/
def absorb (limit : Nat) : Nat → List Char → Nat × Nat
  | n, [] => (n, 0)
  | n, d :: ds =>
    let next := 10 * n + Digits.value d
    if limit < next then (n, ds.length + 1) else absorb limit next ds

/-! ### Powers of ten -/

/-- The greatest power of ten that is used in one step. -/
def powerStep : Nat := 308

/-- A power of ten as a floating-point value. -/
def powerOfTen (k : Nat) : Binary64 :=
  Binary.ofDecimal false 1 k

/-- Divides by `10 ^ k`, in steps of the greatest power; `fuel` bounds their number. -/
def divideByPower : (fuel : Nat) → Binary64 → Nat → Binary64
  | 0, x, _ => x
  | fuel + 1, x, k =>
    if k ≤ powerStep then x.div (powerOfTen k)
    else if x.isZero then x
    else divideByPower fuel (x.div (powerOfTen powerStep)) (k - powerStep)

/-- The value of `significand · 10 ^ exponent`, if it is finite.  Four steps of division make any
significand vanish. -/
def scaled? (significand : Nat) (exponent : Int) : Option Binary64 :=
  let x : Binary64 := Binary.ofNat significand
  if exponent < 0 then some (divideByPower 4 x (-exponent).toNat)
  else if exponent ≤ powerStep then
    let y := x.mul (powerOfTen exponent.toNat)
    if y.isInfinite then none else some y
  else if x.isZero then some x
  else none

/-- A value with the sign of the number. -/
def withSign (negative : Bool) (x : Binary64) : Binary64 :=
  if negative then x.neg else x

/-! ### Reading -/

/-- The number with the given parts, read up to `rest`. -/
def realNumber (negative : Bool) (significand : Nat) (exponent : Int) : Reader Number :=
  fun rest =>
    match scaled? significand exponent with
    | some x => .ok (.real (withSign negative x), rest)
    | none => .error (.after .numberTooLarge rest)

/-- The sign at the head of an exponent: whether it is a minus, and what follows. -/
def exponentSign (cs : List Char) : Bool × List Char :=
  match cs with
  | '+' :: rest => (false, rest)
  | '-' :: rest => (true, rest)
  | _ => (false, cs)

/-- Reads an exponent from behind its mark. -/
def exponentPart (negative : Bool) (significand : Nat) (exponent : Int) : Reader Number :=
  fun cs =>
    let (below, cs) := exponentSign cs
    match cs with
    | [] => .error (.after .endInValue [])
    | c :: tail =>
      if Digits.isDigit c then
        let (digits, rest) := Digits.span (c :: tail)
        let (power, surplus) := absorb greatestExponent 0 digits
        if surplus = 0 then
          realNumber negative significand
            (if below then exponent - power else exponent + power) rest
        else if significand ≠ 0 && !below then
          .error (.placed .numberTooLarge (Utf8.widths rest + (surplus - 1)))
        else .ok (.real (withSign negative Binary.zero), rest)
      else .error (.before .numberInvalid (c :: tail))

/-- Whether a text goes on with an exponent, and what stands behind its mark. -/
def exponentMark? (cs : List Char) : Option (List Char) :=
  match cs with
  | 'e' :: rest => some rest
  | 'E' :: rest => some rest
  | _ => none

/-- Reads the digits of a fraction, and an exponent, from behind the point. -/
def fractionPart (negative : Bool) (significand : Nat) (exponent : Int) : Reader Number :=
  fun cs =>
    let (digits, rest) := Digits.span cs
    match digits, rest with
    | [], [] => .error (.before .endInValue [])
    | [], _ :: _ => .error (.before .numberInvalid rest)
    | _ :: _, _ =>
      let (significand, surplus) := absorb greatestNatural significand digits
      let exponent := exponent - (digits.length - surplus : Nat)
      match exponentMark? rest with
      | some rest => exponentPart negative significand exponent rest
      | none => realNumber negative significand exponent rest

/-- The whole number with the given sign.  Zero with a minus, and what is below the least integer of
64 bits, is no integer. -/
def wholeNumber (negative : Bool) (n : Nat) : Number :=
  if !negative then .natural n
  else if n = 0 || Nat.pow 2 63 < n then .real (Binary.ofNat n).neg
  else .negative (-(n : Int))

/-- Reads what follows the whole part of a number. -/
def afterWhole (negative : Bool) (significand surplus : Nat) : Reader Number := fun cs =>
  match cs with
  | '.' :: rest => fractionPart negative significand surplus rest
  | _ =>
    match exponentMark? cs with
    | some rest => exponentPart negative significand surplus rest
    | none =>
      if surplus = 0 then .ok (wholeNumber negative significand, cs)
      else realNumber negative significand surplus cs

/-- Reads a number from behind its sign. -/
def number (negative : Bool) : Reader Number := fun cs =>
  match cs with
  | [] => .error (.after .endInValue [])
  | c :: rest =>
    if c = '0' then
      if (rest.head?.map Digits.isDigit).getD false then .error (.before .numberInvalid rest)
      else afterWhole negative 0 0 rest
    else if Digits.isDigit c then
      let (digits, rest) := Digits.span (c :: rest)
      let (significand, surplus) := absorb greatestNatural 0 digits
      afterWhole negative significand surplus rest
    else .error (.before .numberInvalid (c :: rest))

/-! ### Passing over -/

/-- Passes over the digits at the head of a text; there has to be one. -/
def skipDigits (cs : List Char) : Except Failure (List Char) :=
  match Digits.span cs with
  | ([], _) => .error (.before .numberInvalid cs)
  | (_ :: _, rest) => .ok rest

/-- Passes over an exponent, if there is one. -/
def skipExponent (cs : List Char) : Except Failure (List Char) :=
  match exponentMark? cs with
  | some rest => skipDigits (exponentSign rest).2
  | none => .ok cs

/-- Passes over the whole part of a number. -/
def skipWhole (cs : List Char) : Except Failure (List Char) :=
  match cs with
  | '0' :: rest =>
    if (rest.head?.map Digits.isDigit).getD false then .error (.before .numberInvalid rest)
    else .ok rest
  | _ => skipDigits cs

/-- Passes over a fraction, if there is one, and an exponent. -/
def skipFraction (cs : List Char) : Except Failure (List Char) :=
  match cs with
  | '.' :: rest => do skipExponent (← skipDigits rest)
  | _ => skipExponent cs

/-- Passes over a number from behind its sign. -/
def skipNumber (cs : List Char) : Except Failure (List Char) := do
  skipFraction (← skipWhole cs)

end PageImages.Json
