import PageImages.Image
import PageImages.Settings

/-!
**Encoded images.**

An encoded image is kept as what it encodes: the format, the quality where there is one, and the
pixels that were handed to the encoder.  Not every image can be encoded.

Main definitions:

* `Encoded` — an encoded image;
* `Encoded.ofImage` — the encoding of an image, or why there is none;
* `EncodeError.remnant` — what is written of an image that cannot be encoded.
-/

set_option autoImplicit false

namespace PageImages

/-- An encoded image. -/
inductive Encoded where
  /-- With losses, in a quality; such an image has no opacity. -/
  | jpeg (quality : Nat) (image : Image)
  /-- Without losses. -/
  | png (image : Image)
deriving DecidableEq

/-- Why an image cannot be encoded. -/
inductive EncodeError where
  /-- The image has no columns. -/
  | zeroWidth
  /-- The image has no rows. -/
  | zeroHeight
  /-- The image has no pixel or a side that is too long. -/
  | sizeNotEncodable (width height : Nat)
deriving DecidableEq

/-- Why an image cannot be encoded, in words. -/
def EncodeError.message : EncodeError → String
  | .zeroWidth => "Zero width not allowed"
  | .zeroHeight => "Zero height not allowed"
  | .sizeNotEncodable width height =>
    "Format error encoding Jpeg:\nInvalid image size (" ++ toString width ++ " x "
      ++ toString height
      ++ ") to encode as JPEG: width and height must be >= 1 and <= 65535"

/-- The end of every image without losses: an empty block of the kind `IEND` with its check sum. -/
def pngEnd : Octets :=
  [0x00, 0x00, 0x00, 0x00, 0x49, 0x45, 0x4E, 0x44, 0xAE, 0x42, 0x60, 0x82]

/-- What is written of an image that cannot be encoded: nothing with losses, and the end of an image
without. -/
def EncodeError.remnant : EncodeError → Octets
  | .zeroWidth => pngEnd
  | .zeroHeight => pngEnd
  | .sizeNotEncodable _ _ => []

/-- Whether a side of an image can be encoded with losses. -/
def jpegSide (n : Nat) : Bool := 1 ≤ n && n ≤ 65535

/-- The encoding of an image. -/
def Encoded.ofImage (format : ImageFormat) (quality : Nat) (image : Image) :
    Except EncodeError Encoded :=
  match format with
  | .jpg =>
    if jpegSide image.width && jpegSide image.height then .ok (.jpeg quality image.withoutAlpha)
    else .error (.sizeNotEncodable image.width image.height)
  | .png =>
    if image.width = 0 then .error .zeroWidth
    else if image.height = 0 then .error .zeroHeight
    else .ok (.png image)

end PageImages
