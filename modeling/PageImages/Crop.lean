import PageImages.Binary.Decimal
import PageImages.Image

/-!
**Cropping.**

A crop is given in percentages of the sides of a page image, so that it means the same at every
resolution.  On a raster of known size it becomes a window of whole pixels: every edge is the floor
of the side times the percentage.  A crop whose window has no pixel on a raster has no window there.

Main definitions:

* `Crop` — a part of each axis, in percentages;
* `Crop.check` — whether the percentages are in range and in order;
* `Crop.window?` — the window of a crop on a raster;
* `Window.cut` — the part of an image inside a window.
-/

set_option autoImplicit false

namespace PageImages

/-- One of the two axes of a raster. -/
inductive Axis where
  /-- From left to right. -/
  | horizontal
  /-- From top to bottom. -/
  | vertical
deriving DecidableEq, Repr

/-- The name of an axis. -/
def Axis.name : Axis → String
  | .horizontal => "horizontal"
  | .vertical => "vertical"

/-- A part of an axis, in percentages of its length. -/
structure Span where
  /-- Where the part starts. -/
  start : Binary64
  /-- Where the part ends. -/
  stop : Binary64
deriving DecidableEq, Inhabited

/-- The whole axis. -/
def Span.whole : Span := ⟨Binary.zero, Binary.ofNat 100⟩

/-- Which part of a page image to keep. -/
structure Crop where
  /-- Whether pages are cropped at all. -/
  enabled : Bool
  /-- The part of the width. -/
  horizontal : Span
  /-- The part of the height. -/
  vertical : Span
deriving DecidableEq, Inhabited

namespace Crop

/-- No cropping, and the whole raster if there were any. -/
def disabled : Crop := ⟨false, Span.whole, Span.whole⟩

/-! ### Checking a crop -/

/-- What can be wrong with a crop. -/
inductive Fault where
  /-- A percentage is not between 0 and 100. -/
  | outOfRange (axis : Axis) (atStop : Bool) (value : Binary64)
  /-- A part of an axis does not start before it ends. -/
  | reversed (axis : Axis) (span : Span)
deriving DecidableEq

/-- The name of one end of a part of an axis. -/
def endName (axis : Axis) (atStop : Bool) : String :=
  axis.name ++ if atStop then "_end" else "_start"

/-- What is wrong with a crop, in words. -/
def Fault.message : Fault → String
  | .outOfRange axis atStop value =>
    endName axis atStop ++ " must be between 0 and 100, got " ++ value.positional
  | .reversed axis span =>
    endName axis false ++ " (" ++ span.start.positional ++ ") must be less than "
      ++ endName axis true ++ " (" ++ span.stop.positional ++ ")"

/-- Whether a value is a percentage. -/
def isPercentage (x : Binary64) : Bool :=
  x.between Binary.zero (Binary.ofNat 100)

/-- The four percentages of a crop, in the order in which they are checked. -/
def ends (c : Crop) : List (Axis × Bool × Binary64) :=
  [(.horizontal, false, c.horizontal.start), (.horizontal, true, c.horizontal.stop),
    (.vertical, false, c.vertical.start), (.vertical, true, c.vertical.stop)]

/-- The two parts of a crop, in the order in which they are checked. -/
def spans (c : Crop) : List (Axis × Span) :=
  [(.horizontal, c.horizontal), (.vertical, c.vertical)]

/-- The first thing that is wrong with a crop: the ranges of all percentages come before the order of
any two. -/
def fault? (c : Crop) : Option Fault :=
  (c.ends.findSome? fun (axis, atStop, value) =>
      if isPercentage value then none else some (.outOfRange axis atStop value)).or
    (c.spans.findSome? fun (axis, span) =>
      if span.stop.le span.start then some (.reversed axis span) else none)

/-- The crop itself, if nothing is wrong with it. -/
def check (c : Crop) : Except Fault Crop :=
  match c.fault? with
  | some fault => .error fault
  | none => .ok c

end Crop

/-! ### Windows -/

/-- A rectangle of pixels: the columns from `left` up to, but not including, `right`, and the rows
from `top` up to, but not including, `bottom`. -/
structure Window where
  left : Nat
  top : Nat
  right : Nat
  bottom : Nat
deriving DecidableEq, Repr

namespace Window

/-- The number of columns. -/
def width (w : Window) : Nat := w.right - w.left

/-- The number of rows. -/
def height (w : Window) : Nat := w.bottom - w.top

/-- The part of an image inside a window. -/
def cut (w : Window) (image : Image) : Image :=
  image.window w.left w.top w.width w.height

end Window

namespace Crop

/-- The greatest length of a side. -/
def longestSide : Nat := UInt32.size - 1

/-- The number of whole pixels before a percentage of a side, between zero and its length. -/
def position (side : Nat) (percent : Binary64) : Nat :=
  let length : Binary64 := Binary.ofNat side
  let pixels := ((length.mul percent).div (Binary.ofNat 100)).floor
  (pixels.clamp Binary.zero length).toNat longestSide

/-- The window of a crop on a raster, if it has a pixel. -/
def window? (width height : Nat) (c : Crop) : Option Window :=
  let w : Window :=
    { left := position width c.horizontal.start
      top := position height c.vertical.start
      right := position width c.horizontal.stop
      bottom := position height c.vertical.stop }
  if w.right ≤ w.left || w.bottom ≤ w.top then none else some w

end Crop

end PageImages
