import PageImages.Proofs.Crop

/-!
**Flattening and cutting images.**

An image is kept as rows of pixels and written out octet by octet: row after row, pixel after
pixel, the channels of a pixel side by side.  Flattening replaces every pixel by its colour or its
grey value, which changes the number of channels and with it the place of every octet; cutting
changes the length of the rows.  Both act pixel by pixel, and so it is shown once where the channels
of a pixel are, and all else is about pixels.

Main definitions:

* `Pixel.flatten` — a pixel in a colour model;
* `Image.octet?` — a channel of a pixel, by its place among the octets of an image;
* `Image.SameButAlpha` — two images differ at most in octets that are an opacity;
* `Window.clip` — the part of a window inside a raster.

Main results:

* `Image.eq_of_pixel?` — an image is determined by its kind, its size and its pixels;
* `Image.octet?_eq` — **where the channels of a pixel are** among the octets;
* `Image.pixel?_flatten` — flattening acts pixel by pixel;
* `Image.flatten_congr` — flattening does not depend on any opacity;
* `Image.flatten_cut` — **flattening and cutting commute**, and a flattened image stays as it is.
-/

set_option autoImplicit false

namespace PageImages

attribute [ext] Rgb Raster

/-! ### Kinds and channels of pixels -/

/-- What the pixels of an image in a colour model are. -/
def Colorspace.kind : Colorspace → PixelKind
  | .rgb => .rgb
  | .gray => .luma

namespace PixelKind

/-- The number of channels. -/
def channels : PixelKind → ℕ
  | .luma => 1
  | .lumaAlpha => 2
  | .rgb => 3
  | .rgba => 4

/-- The channel that is an opacity, if there is one. -/
def alpha? : PixelKind → Option ℕ
  | .luma => none
  | .lumaAlpha => some 1
  | .rgb => none
  | .rgba => some 3

end PixelKind

namespace Pixel

/-- What the pixel is. -/
def kind : Pixel → PixelKind
  | .luma _ => .luma
  | .lumaAlpha _ => .lumaAlpha
  | .rgb _ => .rgb
  | .rgba _ => .rgba

/-- The channels, in their order. -/
def channels : Pixel → Octets
  | .luma v => [v]
  | .lumaAlpha p => [p.luma, p.alpha]
  | .rgb c => [c.red, c.green, c.blue]
  | .rgba p => [p.color.red, p.color.green, p.color.blue, p.alpha]

/-- The colour, opacity dropped. -/
def color : Pixel → Rgb
  | .luma v => .ofLuma v
  | .lumaAlpha p => .ofLuma p.luma
  | .rgb c => c
  | .rgba p => p.color

/-- The grey value, opacity dropped. -/
def gray : Pixel → UInt8
  | .luma v => v
  | .lumaAlpha p => p.luma
  | .rgb c => luminance c
  | .rgba p => luminance p.color

/-- The pixel in a colour model. -/
def flatten (space : Colorspace) (p : Pixel) : Pixel :=
  match space with
  | .rgb => .rgb p.color
  | .gray => .luma p.gray

theorem length_channels (p : Pixel) : p.channels.length = p.kind.channels := by
  cases p <;> rfl

theorem flatten_flatten (space : Colorspace) (p : Pixel) :
    (p.flatten space).flatten space = p.flatten space := by
  cases space <;> rfl

/-- Pixels of the same kind have the same colour and the same grey value if their channels agree, an
opacity apart. -/
theorem color_gray_congr {p q : Pixel} (hkind : p.kind = q.kind)
    (h : ∀ k, p.kind.alpha? ≠ some k → p.channels[k]? = q.channels[k]?) :
    p.color = q.color ∧ p.gray = q.gray := by
  cases p with
  | luma v =>
      cases q with
      | luma w =>
          have hvalue : v = w := Option.some.inj (h 0 nofun)
          rw [hvalue]
          exact ⟨rfl, rfl⟩
      | _ => cases hkind
  | lumaAlpha p =>
      cases q with
      | lumaAlpha q =>
          have hluma : p.luma = q.luma := Option.some.inj (h 0 nofun)
          exact ⟨congrArg Rgb.ofLuma hluma, hluma⟩
      | _ => cases hkind
  | rgb c =>
      cases q with
      | rgb d =>
          have hcolor : c = d := Rgb.ext (Option.some.inj (h 0 nofun))
            (Option.some.inj (h 1 nofun)) (Option.some.inj (h 2 nofun))
          rw [hcolor]
          exact ⟨rfl, rfl⟩
      | _ => cases hkind
  | rgba p =>
      cases q with
      | rgba q =>
          have hcolor : p.color = q.color := Rgb.ext (Option.some.inj (h 0 nofun))
            (Option.some.inj (h 1 nofun)) (Option.some.inj (h 2 nofun))
          exact ⟨hcolor, congrArg luminance hcolor⟩
      | _ => cases hkind

end Pixel

/-! ### Rasters, pixel by pixel -/

namespace Raster

variable {α β : Type}

theorem pixel?_map (g : α → β) (r : Raster α) (x y : ℕ) :
    (r.map g).pixel? x y = (r.pixel? x y).map g := by
  rw [pixel?, pixel?, map, List.getElem?_map]
  cases r.rows[y]? with
  | none => rfl
  | some row => exact List.getElem?_map

/-- A raster is determined by its size and its pixels. -/
theorem eq_of_pixel? {r s : Raster α} (hwidth : r.width = s.width) (hheight : r.height = s.height)
    (h : ∀ x y, x < r.width → y < r.height → r.pixel? x y = s.pixel? x y) : r = s := by
  have hlength : r.rows.length = s.rows.length := by rw [r.rows_length, s.rows_length, hheight]
  refine Raster.ext hwidth hheight (List.ext_getElem hlength fun y hy hy' => ?_)
  have hrow : (r.rows[y]).length = r.width := r.row_length _ (List.getElem_mem hy)
  have hrow' : (s.rows[y]).length = s.width := s.row_length _ (List.getElem_mem hy')
  refine List.ext_getElem (by rw [hrow, hrow', hwidth]) fun x hx hx' => ?_
  have hpixel := h x y (by rwa [← hrow]) (by rwa [← r.rows_length])
  rw [pixel?, pixel?, List.getElem?_eq_getElem hy, List.getElem?_eq_getElem hy', Option.bind_some,
    Option.bind_some, List.getElem?_eq_getElem hx, List.getElem?_eq_getElem hx'] at hpixel
  exact Option.some.inj hpixel

end Raster

/-- Pieces of the same length, one after the other: where the parts of a piece are. -/
theorem getElem?_flatMap_pieces {α β : Type} {g : α → List β} {size i : ℕ} (hi : i < size)
    {l : List α} (hsize : ∀ a ∈ l, (g a).length = size) (n : ℕ) :
    (l.flatMap g)[n * size + i]? = l[n]?.bind fun a => (g a)[i]? := by
  induction l generalizing n with
  | nil => rfl
  | cons a l ih =>
      have ha : (g a).length = size := hsize a List.mem_cons_self
      rw [List.flatMap_cons]
      cases n with
      | zero =>
          rw [Nat.zero_mul, Nat.zero_add, List.getElem?_append_left (by omega)]
          rfl
      | succ n =>
          have hindex : (n + 1) * size + i - size = n * size + i := by
            rw [Nat.succ_mul]
            omega
          rw [List.getElem?_append_right (by rw [ha, Nat.succ_mul]; omega), ha, hindex,
            ih (fun b hb => hsize b (List.mem_cons_of_mem a hb)) n, List.getElem?_cons_succ]

theorem Raster.getElem?_pixels {α : Type} (r : Raster α) {x : ℕ} (hx : x < r.width) (y : ℕ) :
    r.pixels[y * r.width + x]? = r.pixel? x y := by
  have hplace := getElem?_flatMap_pieces (g := id) hx r.row_length y
  rwa [List.flatMap_id] at hplace

/-! ### The octets of an image -/

namespace Image

/-- The pixels, row by row. -/
def pixels : Image → List Pixel
  | .luma r => r.pixels.map .luma
  | .lumaAlpha r => r.pixels.map .lumaAlpha
  | .rgb r => r.pixels.map .rgb
  | .rgba r => r.pixels.map .rgba

/-- The octet at the place of channel `k` of the pixel in column `x` and row `y`. -/
def octet? (image : Image) (x y k : ℕ) : Option UInt8 :=
  image.samples[(y * image.width + x) * image.kind.channels + k]?

theorem samples_eq (image : Image) : image.samples = image.pixels.flatMap Pixel.channels := by
  cases image with
  | luma r => rw [samples, pixels, List.flatMap_map]; exact (List.flatMap_singleton' _).symm
  | lumaAlpha r => rw [samples, pixels, List.flatMap_map]; rfl
  | rgb r => rw [samples, pixels, List.flatMap_map]; rfl
  | rgba r => rw [samples, pixels, List.flatMap_map]; rfl

theorem getElem?_pixels (image : Image) {x : ℕ} (hx : x < image.width) (y : ℕ) :
    image.pixels[y * image.width + x]? = image.pixel? x y := by
  cases image <;>
    exact List.getElem?_map.trans (congrArg (Option.map _) (Raster.getElem?_pixels _ hx y))

theorem kind_of_mem_pixels {image : Image} {p : Pixel} (h : p ∈ image.pixels) :
    p.kind = image.kind := by
  cases image <;>
  · obtain ⟨v, -, rfl⟩ := List.mem_map.1 h
    rfl

/-- **Where the channels of a pixel are** among the octets of an image. -/
theorem octet?_eq (image : Image) {x k : ℕ} (hx : x < image.width) (hk : k < image.kind.channels)
    (y : ℕ) : image.octet? x y k = (image.pixel? x y).bind fun p => p.channels[k]? := by
  have hsize : ∀ p ∈ image.pixels, p.channels.length = image.kind.channels := by
    intro p hp
    rw [p.length_channels, kind_of_mem_pixels hp]
  rw [octet?, samples_eq, getElem?_flatMap_pieces hk hsize, image.getElem?_pixels hx]

/-! ### Images, pixel by pixel -/

/-- An image is determined by its kind, its size and its pixels. -/
theorem eq_of_pixel? {a b : Image} (hkind : a.kind = b.kind) (hwidth : a.width = b.width)
    (hheight : a.height = b.height)
    (h : ∀ x y, x < a.width → y < a.height → a.pixel? x y = b.pixel? x y) : a = b := by
  -- of every kind, pixels of the image are equal only if those of the raster are
  have hraster : ∀ {α : Type} {r s : Raster α} {g : α → Pixel}, g.Injective → r.width = s.width →
      r.height = s.height → (∀ x y, x < r.width → y < r.height →
        (r.pixel? x y).map g = (s.pixel? x y).map g) → r = s := by
    intro α r s g hg hwidth hheight h
    exact Raster.eq_of_pixel? hwidth hheight fun x y hx hy =>
      Option.map_injective hg (h x y hx hy)
  cases a with
  | luma r =>
      cases b with
      | luma s => exact congrArg luma (hraster (fun _ _ => Pixel.luma.inj) hwidth hheight h)
      | _ => cases hkind
  | lumaAlpha r =>
      cases b with
      | lumaAlpha s =>
          exact congrArg lumaAlpha (hraster (fun _ _ => Pixel.lumaAlpha.inj) hwidth hheight h)
      | _ => cases hkind
  | rgb r =>
      cases b with
      | rgb s => exact congrArg rgb (hraster (fun _ _ => Pixel.rgb.inj) hwidth hheight h)
      | _ => cases hkind
  | rgba r =>
      cases b with
      | rgba s => exact congrArg rgba (hraster (fun _ _ => Pixel.rgba.inj) hwidth hheight h)
      | _ => cases hkind

theorem kind_of_pixel? {image : Image} {x y : ℕ} {p : Pixel} (h : image.pixel? x y = some p) :
    p.kind = image.kind := by
  cases image <;>
  · obtain ⟨v, -, rfl⟩ := Option.map_eq_some_iff.1 h
    rfl

/-! ### Flattening -/

theorem pixel?_toRgb (image : Image) (x y : ℕ) :
    image.toRgb.pixel? x y = (image.pixel? x y).map Pixel.color := by
  cases image with
  | luma r => rw [toRgb, pixel?, Raster.pixel?_map, Option.map_map]; rfl
  | lumaAlpha r => rw [toRgb, pixel?, Raster.pixel?_map, Option.map_map]; rfl
  | rgb r => rw [toRgb, pixel?, Option.map_map]; exact Option.map_id_apply.symm
  | rgba r => rw [toRgb, pixel?, Raster.pixel?_map, Option.map_map]; rfl

theorem pixel?_toLuma (image : Image) (x y : ℕ) :
    image.toLuma.pixel? x y = (image.pixel? x y).map Pixel.gray := by
  cases image with
  | luma r => rw [toLuma, pixel?, Option.map_map]; exact Option.map_id_apply.symm
  | lumaAlpha r => rw [toLuma, pixel?, Raster.pixel?_map, Option.map_map]; rfl
  | rgb r => rw [toLuma, pixel?, Raster.pixel?_map, Option.map_map]; rfl
  | rgba r => rw [toLuma, pixel?, Raster.pixel?_map, Option.map_map]; rfl

/-- **Flattening acts pixel by pixel.** -/
theorem pixel?_flatten (space : Colorspace) (image : Image) (x y : ℕ) :
    (image.flatten space).pixel? x y = (image.pixel? x y).map (Pixel.flatten space) := by
  cases space with
  | rgb => rw [flatten, pixel?, pixel?_toRgb, Option.map_map]; rfl
  | gray => rw [flatten, pixel?, pixel?_toLuma, Option.map_map]; rfl

theorem kind_flatten (space : Colorspace) (image : Image) :
    (image.flatten space).kind = space.kind := by
  cases space <;> rfl

theorem width_flatten (space : Colorspace) (image : Image) :
    (image.flatten space).width = image.width := by
  cases space <;> cases image <;> rfl

theorem height_flatten (space : Colorspace) (image : Image) :
    (image.flatten space).height = image.height := by
  cases space <;> cases image <;> rfl

theorem flatten_flatten (space : Colorspace) (image : Image) :
    (image.flatten space).flatten space = image.flatten space := by
  refine eq_of_pixel? ?_ (width_flatten _ _) (height_flatten _ _) fun x y _ _ => ?_
  · rw [kind_flatten, kind_flatten]
  · rw [pixel?_flatten, pixel?_flatten, Option.map_map]
    exact congrArg (Option.map · _) (funext (Pixel.flatten_flatten space))

/-- **Flattening and taking a part commute.** -/
theorem window_flatten (space : Colorspace) (image : Image) (x y width height : ℕ) :
    (image.flatten space).window x y width height
      = (image.window x y width height).flatten space := by
  have hwidth : ((image.flatten space).window x y width height).width
      = min width (image.width - x) := by
    rw [width_window, width_flatten]
  have hheight : ((image.flatten space).window x y width height).height
      = min height (image.height - y) := by
    rw [height_window, height_flatten]
  refine eq_of_pixel? ?_ ?_ ?_ fun i j hi hj => ?_
  · rw [kind_window, kind_flatten, kind_flatten]
  · rw [hwidth, width_flatten, width_window]
  · rw [hheight, height_flatten, height_window]
  · rw [hwidth] at hi
    rw [hheight] at hj
    -- both sides have the pixel of the image, counted from the corner, in the colour model
    rw [pixel?_window _ (by omega) (by omega), pixel?_flatten, pixel?_flatten,
      pixel?_window _ (by omega) (by omega)]

/-! ### Opacities -/

/-- The two images are of the same kind and size, and all octets that are no opacity agree. -/
structure SameButAlpha (image other : Image) : Prop where
  kind : image.kind = other.kind
  width : image.width = other.width
  height : image.height = other.height
  samples : ∀ n, image.kind.alpha? ≠ some (n % image.kind.channels) →
    image.samples[n]? = other.samples[n]?

/-- Channels that are no opacity are the same in both images. -/
theorem SameButAlpha.octet?_eq {image other : Image} (h : image.SameButAlpha other) {k : ℕ}
    (hk : k < image.kind.channels) (halpha : image.kind.alpha? ≠ some k) (x y : ℕ) :
    image.octet? x y k = other.octet? x y k := by
  rw [octet?, octet?, ← h.kind, ← h.width]
  refine h.samples _ ?_
  rwa [Nat.mul_add_mod_self_right, Nat.mod_eq_of_lt hk]

/-- **Flattening does not depend on any opacity.** -/
theorem flatten_congr {image other : Image} (h : image.SameButAlpha other) (space : Colorspace) :
    image.flatten space = other.flatten space := by
  refine eq_of_pixel? ?_ ?_ ?_ fun x y hx hy => ?_
  · rw [kind_flatten, kind_flatten]
  · rw [width_flatten, width_flatten, h.width]
  · rw [height_flatten, height_flatten, h.height]
  · rw [width_flatten] at hx
    rw [height_flatten] at hy
    obtain ⟨p, hp⟩ := image.exists_pixel? hx hy
    obtain ⟨q, hq⟩ := other.exists_pixel? (by rwa [← h.width]) (by rwa [← h.height])
    have hkind : p.kind = q.kind := by rw [kind_of_pixel? hp, kind_of_pixel? hq, h.kind]
    have hchannels : ∀ k, p.kind.alpha? ≠ some k → p.channels[k]? = q.channels[k]? := by
      intro k halpha
      by_cases hk : k < p.kind.channels
      · rw [kind_of_pixel? hp] at hk halpha
        have hoctet := h.octet?_eq hk halpha x y
        rw [octet?_eq image hx hk, octet?_eq other (by rwa [← h.width]) (by rwa [← h.kind]), hp,
          hq] at hoctet
        exact hoctet
      · rw [List.getElem?_eq_none (by rw [p.length_channels]; omega),
          List.getElem?_eq_none (by rw [q.length_channels, ← hkind]; omega)]
    obtain ⟨hcolor, hgray⟩ := Pixel.color_gray_congr hkind hchannels
    rw [pixel?_flatten, pixel?_flatten, hp, hq]
    cases space with
    | rgb => exact congrArg (fun c => some (Pixel.rgb c)) hcolor
    | gray => exact congrArg (fun v => some (Pixel.luma v)) hgray

end Image

/-! ### Cutting -/

namespace Window

/-- The part of a window inside a raster. -/
def clip (w : Window) (width height : ℕ) : Window :=
  ⟨min w.left width, min w.top height, min w.right width, min w.bottom height⟩

theorem width_cut (w : Window) (image : Image) :
    (w.cut image).width = (w.clip image.width image.height).width := by
  rw [cut, image.width_window]
  simp only [width, clip]
  omega

theorem height_cut (w : Window) (image : Image) :
    (w.cut image).height = (w.clip image.width image.height).height := by
  rw [cut, image.height_window]
  simp only [height, clip]
  omega

/-- Of an image that is cut, the pixels inside the window are left. -/
theorem pixel?_cut {w : Window} {image : Image} {i j : ℕ}
    (hi : i < (w.clip image.width image.height).width)
    (hj : j < (w.clip image.width image.height).height) :
    (w.cut image).pixel? i j = image.pixel? (w.left + i) (w.top + j) := by
  simp only [width, height, clip] at hi hj
  have hcolumn : i < w.right - w.left := by omega
  have hrow : j < w.bottom - w.top := by omega
  exact image.pixel?_window hcolumn hrow

end Window

/-- **Flattening and cutting commute.**  For every window, inside an image, partly outside or
outside, a flattened image that is cut is octet for octet the cut image flattened: it has the
channels of those pixels of the image that are inside the window, each in the colour model.
Flattening keeps the size, gives an image of the kind of the colour model, does not depend on any
opacity, and does nothing to its own result. -/
theorem Image.flatten_cut (space : Colorspace) (image : Image) :
    (∀ w : Window,
      let part := w.cut (image.flatten space)
      let inside := w.clip image.width image.height
      part = (w.cut image).flatten space ∧ part.samples = ((w.cut image).flatten space).samples ∧
      part.width = inside.width ∧ part.height = inside.height ∧
      ∀ i j k, i < inside.width → j < inside.height → k < space.kind.channels →
        part.octet? i j k = (image.pixel? (w.left + i) (w.top + j)).bind
          fun p => (p.flatten space).channels[k]?) ∧
    (image.flatten space).width = image.width ∧ (image.flatten space).height = image.height ∧
    (image.flatten space).kind = space.kind ∧
    (∀ other, image.SameButAlpha other → image.flatten space = other.flatten space) ∧
    (image.flatten space).flatten space = image.flatten space := by
  have hwidth := width_flatten space image
  have hheight := height_flatten space image
  have hkind := kind_flatten space image
  refine ⟨fun w => ?_, hwidth, hheight, hkind, fun other h => flatten_congr h space,
    flatten_flatten space image⟩
  intro part inside
  have hcommute : part = (w.cut image).flatten space := window_flatten space image _ _ _ _
  have hcolumns : part.width = inside.width := by
    rw [w.width_cut, hwidth, hheight]
  have hrows : part.height = inside.height := by
    rw [w.height_cut, hwidth, hheight]
  refine ⟨hcommute, congrArg samples hcommute, hcolumns, hrows, fun i j k hi hj hk => ?_⟩
  have hchannel : k < part.kind.channels := by
    rwa [hcommute, kind_flatten]
  rw [octet?_eq part (by rwa [hcolumns]) hchannel, Window.pixel?_cut, pixel?_flatten]
  · cases image.pixel? (w.left + i) (w.top + j) <;> rfl
  · rwa [hwidth, hheight]
  · rwa [hwidth, hheight]

namespace Sample

/-- Two pixels side by side. -/
def pair (alpha alpha' : UInt8) : Image :=
  .rgba ⟨2, 1, [[⟨⟨10, 20, 30⟩, alpha⟩, ⟨⟨200, 100, 50⟩, alpha'⟩]], rfl, by simp⟩

theorem pair_sameButAlpha : (pair 255 0).SameButAlpha (pair 7 128) where
  kind := rfl
  width := rfl
  height := rfl
  samples := by
    have hoctets : ∀ n < 8, (pair 255 0).kind.alpha? ≠ some (n % 4) →
        (pair 255 0).samples[n]? = (pair 7 128).samples[n]? := by
      decide
    intro n halpha
    by_cases hn : n < 8
    · exact hoctets n hn halpha
    · have hlength : (pair 255 0).samples.length = 8 ∧ (pair 7 128).samples.length = 8 := by decide
      rw [List.getElem?_eq_none (by omega), List.getElem?_eq_none (by omega)]

end Sample

/-- The second pixel, from a window that goes beyond the image on two sides, in grey; the opacities
do not matter. -/
theorem Image.flatten_cut_sample :
    let w : Window := ⟨1, 0, 9, 4⟩
    (w.cut ((Sample.pair 255 0).flatten .gray)).samples = [118] ∧
    w.cut ((Sample.pair 255 0).flatten .gray) = (w.cut (Sample.pair 7 128)).flatten .gray := by
  intro w
  obtain ⟨-, -, -, -, halpha, -⟩ := Image.flatten_cut .gray (Sample.pair 255 0)
  obtain ⟨hcut, -⟩ := Image.flatten_cut .gray (Sample.pair 7 128)
  refine ⟨by decide +kernel, ?_⟩
  rw [halpha _ Sample.pair_sameButAlpha]
  exact (hcut w).1

end PageImages
