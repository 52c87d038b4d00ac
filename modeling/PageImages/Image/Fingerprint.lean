import PageImages.Image
import PageImages.Text.Digits

/-!
**Fingerprints of images.**

The fingerprint of an image is a hash of its samples in 64 bits: each octet is joined by exclusive
or, and the result is multiplied by a fixed prime.
-/

set_option autoImplicit false

namespace PageImages.Fingerprint

/-- The hash of no octets. -/
def start : UInt64 := 0xCBF29CE484222325

/-- The multiplier. -/
def prime : UInt64 := 0x100000001B3

/-- The hash with one more octet. -/
def step (hash : UInt64) (b : UInt8) : UInt64 :=
  (hash ^^^ b.toUInt64) * prime

/-- The hash of a sequence of octets. -/
def ofOctets (bytes : Octets) : UInt64 :=
  bytes.foldl step start

/-- The fingerprint of an image, as sixteen hexadecimal digits. -/
def ofImage (image : Image) : String :=
  String.ofList (Digits.hex 16 (ofOctets image.samples).toNat)

end PageImages.Fingerprint
