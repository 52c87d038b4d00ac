import PageImages.Image

/-!
**Pattern images.**

A pattern image is computed from its size and a number alone; images of the same size and different
numbers differ.
-/

set_option autoImplicit false

namespace PageImages

/-- The colour of a pattern image in column `x` and row `y`. -/
def patternColor (n x y : Nat) : Rgb where
  red := UInt8.ofNat (7 * x + 13 * y + 31 * n + 17)
  green := UInt8.ofNat (3 * x + 5 * y + 11 * n)
  blue := UInt8.ofNat (x * y + 3 * n)

/-- The pattern image of a size and a number. -/
def Image.pattern (width height n : Nat) : Image :=
  .rgba (Raster.generate width height fun x y => ⟨patternColor n x y, 255⟩)

end PageImages
