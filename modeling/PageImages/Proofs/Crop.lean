import PageImages.Proofs.Binary
import PageImages.Proofs.Document

/-!
**Windows of a crop.**

The percentages of a crop may be any values at all: negative, beyond a hundred, infinite, not a
number or in the wrong order.  If they give a window on a raster, the window lies inside the raster
and has a pixel, and cutting an image to it copies that part of the image.

Main definitions:

* `PixelKind`, `Pixel`, `Image.kind`, `Image.pixel?` — the pixels of an image of any kind;
* `Window.Inside` — the window lies inside a raster and has a pixel;
* `Window.Copied` — an image is the part of another one inside a window.

Main results:

* `Crop.inside_of_window?` — a window of a crop lies inside;
* `Window.Inside.copied_cut` — cutting copies a window that lies inside;
* `convertPage_cropped` — a page that is cropped has no window, or a part of it that is not empty is
  saved;
* `Crop.window_exact` — **windows of a crop are safe and exact**.
-/

set_option autoImplicit false

namespace PageImages

/-! ### Pixels -/

/-- What the pixels of an image are. -/
inductive PixelKind where
  | luma
  | lumaAlpha
  | rgb
  | rgba
deriving DecidableEq

/-- A pixel of an image of any kind. -/
inductive Pixel where
  | luma (value : UInt8)
  | lumaAlpha (value : LumaAlpha)
  | rgb (value : Rgb)
  | rgba (value : Rgba)
deriving DecidableEq

namespace Image

/-- What the pixels are. -/
def kind : Image → PixelKind
  | .luma _ => .luma
  | .lumaAlpha _ => .lumaAlpha
  | .rgb _ => .rgb
  | .rgba _ => .rgba

/-- The pixel in column `x` and row `y`. -/
def pixel? (image : Image) (x y : Nat) : Option Pixel :=
  match image with
  | .luma r => (r.pixel? x y).map .luma
  | .lumaAlpha r => (r.pixel? x y).map .lumaAlpha
  | .rgb r => (r.pixel? x y).map .rgb
  | .rgba r => (r.pixel? x y).map .rgba

end Image

/-- There is a pixel in every column and row of a raster. -/
theorem Raster.exists_pixel? {α : Type} (r : Raster α) {x y : Nat} (hx : x < r.width)
    (hy : y < r.height) : ∃ p, r.pixel? x y = some p := by
  have hrow : y < r.rows.length := by rwa [r.rows_length]
  have hlength : (r.rows[y]).length = r.width := r.row_length _ (List.getElem_mem hrow)
  have hcolumn : x < (r.rows[y]).length := by rwa [hlength]
  refine ⟨(r.rows[y])[x], ?_⟩
  rw [pixel?, List.getElem?_eq_getElem hrow, Option.bind_some, List.getElem?_eq_getElem hcolumn]

/-- The pixels of a window are those of the raster, counted from its corner. -/
theorem Raster.pixel?_window {α : Type} (r : Raster α) {x y width height i j : Nat}
    (hi : i < width) (hj : j < height) :
    (r.window x y width height).pixel? i j = r.pixel? (x + i) (y + j) := by
  rw [pixel?, pixel?, window, List.getElem?_map, List.getElem?_take_of_lt hj, List.getElem?_drop]
  cases r.rows[y + j]? with
  | none => rfl
  | some row =>
      change ((row.drop x).take width)[i]? = row[x + i]?
      rw [List.getElem?_take_of_lt hi, List.getElem?_drop]

namespace Image

theorem exists_pixel? (image : Image) {x y : Nat} (hx : x < image.width) (hy : y < image.height) :
    ∃ p, image.pixel? x y = some p := by
  -- of every kind, a pixel of the raster is a pixel of the image
  have hmap : ∀ {α : Type} {r : Raster α} (g : α → Pixel), x < r.width → y < r.height →
      ∃ p, (r.pixel? x y).map g = some p := by
    intro α r g hx hy
    obtain ⟨p, hp⟩ := r.exists_pixel? hx hy
    exact ⟨g p, by rw [hp, Option.map_some]⟩
  cases image <;> exact hmap _ hx hy

theorem pixel?_window (image : Image) {x y width height i j : Nat} (hi : i < width)
    (hj : j < height) :
    (image.window x y width height).pixel? i j = image.pixel? (x + i) (y + j) := by
  cases image <;> exact congrArg (Option.map _) (Raster.pixel?_window _ hi hj)

theorem kind_window (image : Image) (x y width height : Nat) :
    (image.window x y width height).kind = image.kind := by
  cases image <;> rfl

theorem width_window (image : Image) (x y width height : Nat) :
    (image.window x y width height).width = min width (image.width - x) := by
  cases image <;> rfl

theorem height_window (image : Image) (x y width height : Nat) :
    (image.window x y width height).height = min height (image.height - y) := by
  cases image <;> rfl

end Image

/-! ### Windows inside a raster -/

namespace Window

/-- The window lies inside a raster and has a pixel. -/
structure Inside (w : Window) (width height : Nat) : Prop where
  /-- There is a column. -/
  columns : w.left < w.right
  /-- The columns are those of the raster. -/
  right_le : w.right ≤ width
  /-- There is a row. -/
  rows : w.top < w.bottom
  /-- The rows are those of the raster. -/
  bottom_le : w.bottom ≤ height

/-- The image `part` is the part of an image inside a window. -/
structure Copied (w : Window) (image part : Image) : Prop where
  /-- The pixels are of the same kind. -/
  kind : part.kind = image.kind
  /-- There are as many columns as in the window. -/
  width : part.width = w.right - w.left
  /-- There are as many rows as in the window. -/
  height : part.height = w.bottom - w.top
  /-- Every pixel is that of the image, counted from the corner of the window. -/
  pixels : ∀ i j, i < w.right - w.left → j < w.bottom - w.top →
    ∃ p, image.pixel? (w.left + i) (w.top + j) = some p ∧ part.pixel? i j = some p

variable {w : Window} {width height : Nat}

theorem Inside.one_le (h : w.Inside width height) : 1 ≤ w.width ∧ 1 ≤ w.height :=
  ⟨Nat.sub_pos_of_lt h.columns, Nat.sub_pos_of_lt h.rows⟩

/-- **Cutting an image to a window inside it copies that part of the image.** -/
theorem Inside.copied_cut {image : Image} (h : w.Inside image.width image.height) :
    w.Copied image (w.cut image) := by
  obtain ⟨hcolumns, hright, hrows, hbottom⟩ := h
  rw [cut]
  refine ⟨image.kind_window _ _ _ _, ?_, ?_, fun i j hi hj => ?_⟩
  · rw [image.width_window]
    exact Nat.min_eq_left (Nat.sub_le_sub_right hright w.left)
  · rw [image.height_window]
    exact Nat.min_eq_left (Nat.sub_le_sub_right hbottom w.top)
  · obtain ⟨p, hp⟩ : ∃ p, image.pixel? (w.left + i) (w.top + j) = some p :=
      image.exists_pixel? (by omega) (by omega)
    exact ⟨p, hp, (image.pixel?_window hi hj).trans hp⟩

end Window

/-! ### The window of a crop -/

namespace Crop

/-- No percentage leads beyond the end of a side. -/
theorem position_le {side : Nat} (h : side < UInt32.size) (percent : Binary64) :
    position side percent ≤ side := by
  rw [position, Binary.ofNat_word h]
  exact Binary.toNat_clamp_le _ side longestSide

/-- A window has the four edges of the crop, and a pixel. -/
theorem window?_eq_some_iff {crop : Crop} {width height : Nat} {w : Window} :
    crop.window? width height = some w ↔
      (position width crop.horizontal.start = w.left ∧ position height crop.vertical.start = w.top ∧
        position width crop.horizontal.stop = w.right ∧
        position height crop.vertical.stop = w.bottom) ∧
      w.left < w.right ∧ w.top < w.bottom := by
  rw [window?]
  -- what the edges are does not matter
  generalize position width crop.horizontal.start = left
  generalize position height crop.vertical.start = top
  generalize position width crop.horizontal.stop = right
  generalize position height crop.vertical.stop = bottom
  simp only [Bool.or_eq_true, decide_eq_true_eq]
  constructor
  · intro h
    split at h
    · cases h
    · next hordered =>
        cases h
        rw [not_or, Nat.not_le, Nat.not_le] at hordered
        exact ⟨⟨rfl, rfl, rfl, rfl⟩, hordered⟩
  · rintro ⟨⟨rfl, rfl, rfl, rfl⟩, hordered⟩
    rw [if_neg (by omega)]

/-- **A window of a crop lies inside the raster**, whatever the percentages are. -/
theorem inside_of_window? {crop : Crop} {width height : Nat} {w : Window}
    (hwidth : width < UInt32.size) (hheight : height < UInt32.size)
    (h : crop.window? width height = some w) : w.Inside width height := by
  obtain ⟨⟨-, -, hright, hbottom⟩, hcolumns, hrows⟩ := window?_eq_some_iff.1 h
  refine ⟨hcolumns, ?_, hrows, ?_⟩
  · rw [← hright]
    exact position_le hwidth crop.horizontal.stop
  · rw [← hbottom]
    exact position_le hheight crop.vertical.stop

end Crop

/-! ### Pages that are cropped -/

/-- **A page that is cropped**, after it was rendered: it has no pixel left and nothing is done, or
the part of it inside the window is saved. -/
theorem convertPage_cropped {fs : FileSystem} {past : List Call} {settings : Settings}
    {document : Document} {source : Path} {index : Nat} {image : Image}
    (hcrop : settings.crop.enabled = true) (hkept : pageKept fs settings source index = false)
    (hrender : document.render past index settings.dpi settings.colorspace = .ok image) :
    let run := convertPage fs past settings document source index
    let path := imagePath settings source index
    (settings.crop.window? image.width image.height = none →
      run.outcome = .error (.emptyCrop (index + 1) image.width image.height) ∧ run.effects = []) ∧
    ∀ w, settings.crop.window? image.width image.height = some w →
      let saved := saveImage fs (w.cut image) path settings.format settings.quality
      run.effects = saved.effects ∧
        run.outcome = match saved.outcome with
          | .ok () => .ok path
          | .error e => .error (.encodeFailed (index + 1) path e.message) := by
  intro run path
  have hrun : run = _ := convertPage_of_not_kept hkept
  rw [hrender] at hrun
  refine ⟨fun hwindow => ?_, fun w hwindow => ?_⟩
  · have hnone : cropWindow? settings image = none := by
      rw [cropWindow?, if_pos hcrop, hwindow, Option.map_none]
    simp only [hnone] at hrun
    rw [hrun]
    exact ⟨rfl, rfl⟩
  · have hsome : cropWindow? settings image = some (some w) := by
      rw [cropWindow?, if_pos hcrop, hwindow, Option.map_some]
    simp only [hsome] at hrun
    rw [hrun]
    exact (savePage_eq fs settings path index image (some w) _).2

/-- **Windows of a crop are safe and exact.**  Whatever the percentages are, a window on a raster
lies inside the raster and has a pixel, and cutting an image of that size to it copies the pixels of
the window.  So a page that is cropped either has no pixel left, which is reported, or what is handed
to the encoder is a part of the page that is not empty. -/
theorem Crop.window_exact (crop : Crop) {width height : Nat} (hwidth : width < UInt32.size)
    (hheight : height < UInt32.size) :
    (∀ w, crop.window? width height = some w →
      w.Inside width height ∧ 1 ≤ w.width ∧ 1 ≤ w.height ∧
      ∀ image : Image, image.width = width → image.height = height →
        w.Copied image (w.cut image)) ∧
    ∀ (fs : FileSystem) (past : List Call) (settings : Settings) (document : Document)
      (source : Path) (index : Nat) (image : Image),
      settings.crop = crop → crop.enabled = true → pageKept fs settings source index = false →
      document.render past index settings.dpi settings.colorspace = .ok image →
      image.width = width → image.height = height →
      let run := convertPage fs past settings document source index
      let path := imagePath settings source index
      (crop.window? width height = none ∧
        run.outcome = .error (.emptyCrop (index + 1) width height) ∧ run.effects = []) ∨
      ∃ w part, crop.window? width height = some w ∧ w.Copied image part ∧
        1 ≤ part.width ∧ 1 ≤ part.height ∧
        let saved := saveImage fs part path settings.format settings.quality
        run.effects = saved.effects ∧
          run.outcome = match saved.outcome with
            | .ok () => .ok path
            | .error e => .error (.encodeFailed (index + 1) path e.message) := by
  have hcopied : ∀ {w : Window} {image : Image}, crop.window? width height = some w →
      image.width = width → image.height = height → w.Copied image (w.cut image) := by
    rintro w image hw rfl rfl
    exact (inside_of_window? hwidth hheight hw).copied_cut
  refine ⟨fun w hw => ?_, ?_⟩
  · have hinside := inside_of_window? hwidth hheight hw
    exact ⟨hinside, hinside.one_le.1, hinside.one_le.2, fun image => hcopied hw⟩
  · rintro fs past settings document source index image rfl henabled hkept hrender hw hh
    obtain ⟨hempty, hsaved⟩ := convertPage_cropped henabled hkept hrender
    rw [hw, hh] at hempty hsaved
    cases hwindow : settings.crop.window? width height with
    | none => exact Or.inl ⟨rfl, hempty hwindow⟩
    | some w =>
        have hpart := hcopied hwindow hw hh
        obtain ⟨hcolumns, hrows⟩ := (inside_of_window? hwidth hheight hwindow).one_le
        refine Or.inr ⟨w, w.cut image, rfl, hpart, ?_, ?_, hsaved w hwindow⟩
        · rw [hpart.width]
          exact hcolumns
        · rw [hpart.height]
          exact hrows

/-- From no number to a half of the width, and from below nothing to beyond everything. -/
def Sample.wildCrop : Crop :=
  ⟨true, ⟨.nan, Binary.ofNat 50⟩, ⟨(Binary.ofNat 5).neg, .infinite false⟩⟩

/-- Of a page of two pixels the left one is saved. -/
theorem Crop.window_exact_sample :
    let settings := { Sample.settings with crop := Sample.wildCrop }
    let run := convertPage Sample.store [] settings Sample.script.document Sample.source 1
    Sample.wildCrop.window? 2 1 = some ⟨0, 0, 1, 1⟩ ∧ (⟨0, 0, 1, 1⟩ : Window).Inside 2 1 ∧
      ∃ part, Window.Copied ⟨0, 0, 1, 1⟩ (Sample.script.page 1 .rgb) part ∧
        run.effects = (saveImage Sample.store part (imagePath settings Sample.source 1) .png
          settings.quality).effects := by
  intro settings run
  obtain ⟨hinside, hpage⟩ := Crop.window_exact Sample.wildCrop (by decide : 2 < UInt32.size)
    (by decide : 1 < UInt32.size)
  have hwindow : Sample.wildCrop.window? 2 1 = some ⟨0, 0, 1, 1⟩ := by decide +kernel
  refine ⟨hwindow, (hinside _ hwindow).1, ?_⟩
  have hkept : pageKept Sample.store settings Sample.source 1 = false := by decide +kernel
  rcases hpage Sample.store [] settings Sample.script.document Sample.source 1
    (Sample.script.page 1 .rgb) rfl rfl hkept rfl rfl rfl with
    ⟨hnone, -⟩ | ⟨w, part, hw, hcopied, -, -, heffects, -⟩
  · rw [hwindow] at hnone
    cases hnone
  · rw [hwindow] at hw
    cases hw
    exact ⟨part, hcopied, heffects⟩

end PageImages
