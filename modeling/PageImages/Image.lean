import PageImages.Binary.Basic
import PageImages.Raster
import PageImages.Text.Utf8

/-!
**Images.**

An image is a raster of grey or coloured pixels of eight bits a channel, with or without an opacity
channel.  A page is turned into an image without opacity in one of two colour models.

Main definitions:

* `Image` — an image of one of four kinds;
* `Image.window` — the part of an image inside a rectangle;
* `luminance` — the grey value of a colour;
* `Image.flatten` — the image in a colour model, opacity dropped.
-/

set_option autoImplicit false

namespace PageImages

/-- The colour model of a page image. -/
inductive Colorspace where
  /-- Red, green and blue. -/
  | rgb
  /-- Grey. -/
  | gray
deriving DecidableEq, Repr, Inhabited

/-- The name of a colour model. -/
def Colorspace.name : Colorspace → String
  | .rgb => "rgb"
  | .gray => "gray"

/-- A colour. -/
structure Rgb where
  red : UInt8
  green : UInt8
  blue : UInt8
deriving DecidableEq

/-- A colour with an opacity. -/
structure Rgba where
  color : Rgb
  alpha : UInt8
deriving DecidableEq

/-- A grey value with an opacity. -/
structure LumaAlpha where
  luma : UInt8
  alpha : UInt8
deriving DecidableEq

/-- The colour of a grey value. -/
def Rgb.ofLuma (v : UInt8) : Rgb := ⟨v, v, v⟩

/-! ### Luminance -/

namespace Luminance

/-- The step between two channel values, as a part of the full intensity. -/
def step : Binary32 := (Binary.ofNat 1).div (Binary.ofNat 255)

/-- The weight of red, about 0.2126. -/
def redWeight : Binary32 := .finite false (0xD9C05B * Nat.pow 2 123)

/-- The weight of green, about 0.7152. -/
def greenWeight : Binary32 := .finite false (0xB715FC * Nat.pow 2 125)

/-- The weight of blue, about 0.0722. -/
def blueWeight : Binary32 := .finite false (0x93CF75 * Nat.pow 2 122)

/-- What a channel contributes to the luminance. -/
def share (weight : Binary32) (channel : UInt8) : Binary32 :=
  ((Binary.ofNat channel.toNat).mul step).mul weight

end Luminance

/-- The grey value of a colour: the weighted sum of its channels, to the nearest value. -/
def luminance (c : Rgb) : UInt8 :=
  let sum := ((Luminance.share Luminance.redWeight c.red).add
    (Luminance.share Luminance.greenWeight c.green)).add
    (Luminance.share Luminance.blueWeight c.blue)
  UInt8.ofNat ((sum.mul (Binary.ofNat 255)).roundToNat 255)

/-! ### Images -/

/-- An image of one of four kinds. -/
inductive Image where
  /-- Grey values. -/
  | luma (raster : Raster UInt8)
  /-- Grey values with an opacity. -/
  | lumaAlpha (raster : Raster LumaAlpha)
  /-- Colours. -/
  | rgb (raster : Raster Rgb)
  /-- Colours with an opacity. -/
  | rgba (raster : Raster Rgba)
deriving DecidableEq

namespace Image

/-- The number of columns. -/
def width : Image → Nat
  | .luma r => r.width
  | .lumaAlpha r => r.width
  | .rgb r => r.width
  | .rgba r => r.width

/-- The number of rows. -/
def height : Image → Nat
  | .luma r => r.height
  | .lumaAlpha r => r.height
  | .rgb r => r.height
  | .rgba r => r.height

/-- The part of an image inside a rectangle; see `Raster.window`. -/
def window (x y width height : Nat) : Image → Image
  | .luma r => .luma (r.window x y width height)
  | .lumaAlpha r => .lumaAlpha (r.window x y width height)
  | .rgb r => .rgb (r.window x y width height)
  | .rgba r => .rgba (r.window x y width height)

/-- The channels of all pixels, row by row. -/
def samples : Image → Octets
  | .luma r => r.pixels
  | .lumaAlpha r => r.pixels.flatMap fun p => [p.luma, p.alpha]
  | .rgb r => r.pixels.flatMap fun p => [p.red, p.green, p.blue]
  | .rgba r => r.pixels.flatMap fun p => [p.color.red, p.color.green, p.color.blue, p.alpha]

/-- The image without its opacity. -/
def withoutAlpha : Image → Image
  | .lumaAlpha r => .luma (r.map (·.luma))
  | .rgba r => .rgb (r.map (·.color))
  | image => image

/-- The raster of colours of an image. -/
def toRgb : Image → Raster Rgb
  | .luma r => r.map Rgb.ofLuma
  | .lumaAlpha r => r.map fun p => Rgb.ofLuma p.luma
  | .rgb r => r
  | .rgba r => r.map (·.color)

/-- The raster of grey values of an image. -/
def toLuma : Image → Raster UInt8
  | .luma r => r
  | .lumaAlpha r => r.map (·.luma)
  | .rgb r => r.map luminance
  | .rgba r => r.map fun p => luminance p.color

/-- The image in a colour model, without opacity. -/
def flatten (space : Colorspace) (image : Image) : Image :=
  match space with
  | .rgb => .rgb image.toRgb
  | .gray => .luma image.toLuma

end Image

end PageImages
