/-!
**Binary floating-point values and their rounded operations.**

A finite value is a whole number of *units*, where the unit is the least positive value of its
format; sign and units determine it.  Every operation is carried out exactly on fractions of units
and then rounded once, to the nearest value with the format's number of significant bits, a half to
the even neighbour.

Main definitions:

* `Binary.Format`, `Binary.binary64`, `Binary.binary32` — the formats;
* `Binary` — a value of a format: finite, infinite or not a number;
* `Binary.roundQuotient` — the one rounding rule;
* `Binary.mul`, `Binary.div`, `Binary.add`, `Binary.floor`, `Binary.clamp` — the operations.
-/

set_option autoImplicit false

namespace PageImages

/-- What fixes a binary floating-point format. -/
structure Binary.Format where
  /-- The number of significant bits. -/
  precision : Nat
  /-- The least positive value is `2 ^ -scale`. -/
  scale : Nat
  /-- All finite values lie below `2 ^ range`. -/
  range : Nat

/-- The format of eight octets. -/
def Binary.binary64 : Binary.Format := ⟨53, 1074, 1024⟩

/-- The format of four octets. -/
def Binary.binary32 : Binary.Format := ⟨24, 149, 128⟩

/-- A value of the floating-point format `f`. -/
inductive Binary (f : Binary.Format) where
  /-- The value `units · 2 ^ -scale`, or its opposite; zero has a sign. -/
  | finite (negative : Bool) (units : Nat)
  /-- An infinite value. -/
  | infinite (negative : Bool)
  /-- Not a number. -/
  | nan
deriving DecidableEq, Repr, Inhabited

namespace Binary

variable {f : Format}

/-! ### Rounding -/

/-- The number of low bits of a quotient with whole part `whole` that do not fit into `precision`
significant bits. -/
def surplusBits (precision whole : Nat) : Nat :=
  (whole.log2 + 1) - precision

/-- The quotient `num / den` to the nearest whole number, a half to the even one. -/
def nearestEven (num den : Nat) : Nat :=
  let down := num / den
  let twice := 2 * (num % den)
  if twice > den || (twice = den && down % 2 = 1) then down + 1 else down

/-- The quotient `num / den` to the nearest whole number with at most `precision` significant bits,
a half to the one whose last significant bit is zero. -/
def roundQuotient (precision num den : Nat) : Nat :=
  let step := Nat.pow 2 (surplusBits precision (num / den))
  nearestEven num (den * step) * step

/-- The number of units in one. -/
def Format.one (f : Format) : Nat := Nat.pow 2 f.scale

/-- The number of units at which values become infinite. -/
def Format.limit (f : Format) : Nat := Nat.pow 2 (f.range + f.scale)

/-- The value nearest to `num / den` units. -/
def ofQuotient (negative : Bool) (num den : Nat) : Binary f :=
  let units := roundQuotient f.precision num den
  if units < f.limit then .finite negative units else .infinite negative

/-- The value nearest to a whole number. -/
def ofNat (n : Nat) : Binary f :=
  ofQuotient false (n * f.one) 1

/-- Positive zero. -/
def zero : Binary f := .finite false 0

/-! ### Order -/

/-- The units of a finite value with their sign. -/
def signed (negative : Bool) (units : Nat) : Int :=
  if negative then -(units : Int) else units

/-- Strictly below; nothing is comparable with `nan`, and the two zeros are equal. -/
def lt : Binary f → Binary f → Bool
  | .finite n a, .finite m b => signed n a < signed m b
  | .finite _ _, .infinite m => !m
  | .infinite n, .finite _ _ => n
  | .infinite n, .infinite m => n && !m
  | .nan, _ => false
  | _, .nan => false

/-- Below or equal; nothing is comparable with `nan`, and the two zeros are equal. -/
def le : Binary f → Binary f → Bool
  | .finite n a, .finite m b => signed n a ≤ signed m b
  | .finite _ _, .infinite m => !m
  | .infinite n, .finite _ _ => n
  | .infinite n, .infinite m => n || !m
  | .nan, _ => false
  | _, .nan => false

/-- Whether a value lies between two others, the ends included. -/
def between (x low high : Binary f) : Bool :=
  low.le x && x.le high

/-- The nearest value between `low` and `high`; `nan` stays what it is. -/
def clamp (x low high : Binary f) : Binary f :=
  if x.lt low then low else if high.lt x then high else x

/-! ### Arithmetic -/

/-- The opposite value. -/
def neg : Binary f → Binary f
  | .finite n a => .finite (!n) a
  | .infinite n => .infinite (!n)
  | .nan => .nan

/-- The rounded product. -/
def mul : Binary f → Binary f → Binary f
  | .finite n a, .finite m b => ofQuotient (n != m) (a * b) f.one
  | .finite n a, .infinite m => if a = 0 then .nan else .infinite (n != m)
  | .infinite n, .finite m b => if b = 0 then .nan else .infinite (n != m)
  | .infinite n, .infinite m => .infinite (n != m)
  | .nan, _ => .nan
  | _, .nan => .nan

/-- The rounded quotient. -/
def div : Binary f → Binary f → Binary f
  | .finite n a, .finite m b =>
    if b = 0 then if a = 0 then .nan else .infinite (n != m)
    else ofQuotient (n != m) (a * f.one) b
  | .finite n _, .infinite m => .finite (n != m) 0
  | .infinite n, .finite m _ => .infinite (n != m)
  | .infinite _, .infinite _ => .nan
  | .nan, _ => .nan
  | _, .nan => .nan

/-- The rounded sum.  Opposite values give positive zero. -/
def add : Binary f → Binary f → Binary f
  | .finite n a, .finite m b =>
    let sum := signed n a + signed m b
    if sum = 0 then .finite (n && m) 0
    else ofQuotient (sum < 0) sum.natAbs 1
  | .finite _ _, .infinite m => .infinite m
  | .infinite n, .finite _ _ => .infinite n
  | .infinite n, .infinite m => if n = m then .infinite n else .nan
  | .nan, _ => .nan
  | _, .nan => .nan

/-- The greatest whole value that is not above `x`. -/
def floor : Binary f → Binary f
  | .finite n a =>
    let down := a / f.one
    .finite n ((if n && a % f.one != 0 then down + 1 else down) * f.one)
  | x => x

/-! ### Whole numbers -/

/-- The whole number that is left when the fraction is dropped, kept between zero and `most`;
`nan` counts as zero. -/
def toNat (most : Nat) : Binary f → Nat
  | .finite false a => min (a / f.one) most
  | .finite true _ => 0
  | .infinite false => most
  | .infinite true => 0
  | .nan => 0

/-- The nearest whole number, a half upwards, kept between zero and `most`; `nan` counts as
zero. -/
def roundToNat (most : Nat) : Binary f → Nat
  | .finite false a => min ((2 * a + f.one) / (2 * f.one)) most
  | .finite true _ => 0
  | .infinite false => most
  | .infinite true => 0
  | .nan => 0

/-- Whether a value is infinite. -/
def isInfinite : Binary f → Bool
  | .infinite _ => true
  | _ => false

/-- Whether a value is one of the two zeros. -/
def isZero : Binary f → Bool
  | .finite _ 0 => true
  | _ => false

end Binary

/-- A value of the eight-octet format. -/
abbrev Binary64 := Binary Binary.binary64

/-- A value of the four-octet format. -/
abbrev Binary32 := Binary Binary.binary32

end PageImages
