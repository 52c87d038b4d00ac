import PageImages.Encoding

/-!
**Quantisation tables.**

An image encoded with losses carries a table of 64 divisors for its brightness, and a second one for
its colours if it has any.  The tables of quality 50 are fixed; those of other qualities are scaled
from them.
-/

set_option autoImplicit false

namespace PageImages.Quantisation

/-- The divisors of brightness in quality 50, row by row. -/
def brightness : List Nat :=
  [16, 11, 10, 16, 24, 40, 51, 61,
    12, 12, 14, 19, 26, 58, 60, 55,
    14, 13, 16, 24, 40, 57, 69, 56,
    14, 17, 22, 29, 51, 87, 80, 62,
    18, 22, 37, 56, 68, 109, 103, 77,
    24, 35, 55, 64, 81, 104, 113, 92,
    49, 64, 78, 87, 103, 121, 120, 101,
    72, 92, 95, 98, 112, 100, 103, 99]

/-- The divisors of colour in quality 50, row by row. -/
def color : List Nat :=
  [17, 18, 24, 47, 99, 99, 99, 99,
    18, 21, 26, 66, 99, 99, 99, 99,
    24, 26, 56, 99, 99, 99, 99, 99,
    47, 66, 99, 99, 99, 99, 99, 99,
    99, 99, 99, 99, 99, 99, 99, 99,
    99, 99, 99, 99, 99, 99, 99, 99,
    99, 99, 99, 99, 99, 99, 99, 99,
    99, 99, 99, 99, 99, 99, 99, 99]

/-- The scale of a quality, in hundredths; qualities go from 1 to 100. -/
def scale (quality : Nat) : Nat :=
  let q := max 1 (min 100 quality)
  if q < 50 then 5000 / q else 200 - 2 * q

/-- A divisor scaled to a quality, from 1 to 255. -/
def scaled (quality divisor : Nat) : Nat :=
  max 1 (min 255 ((divisor * scale quality + 50) / 100))

/-- A table scaled to a quality. -/
def table (quality : Nat) (divisors : List Nat) : List Nat :=
  divisors.map (scaled quality)

/-- The tables that an image carries in a quality. -/
def tables (quality : Nat) : Image → List (List Nat)
  | .luma _ => [table quality brightness]
  | .lumaAlpha _ => [table quality brightness]
  | .rgb _ => [table quality brightness, table quality color]
  | .rgba _ => [table quality brightness, table quality color]

end PageImages.Quantisation
