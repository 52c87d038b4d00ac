/-!
**Rasters: rectangles of pixels.**

A raster is a list of rows, top to bottom, each row a list of pixels, left to right.  The width is
kept beside the rows, so that a raster without rows still has one.

Main definitions:

* `Raster` — a rectangle of pixels of any type;
* `Raster.pixel?` — the pixel in a column and a row;
* `Raster.map` — a raster with every pixel replaced;
* `Raster.window` — the part of a raster inside a rectangle.
-/

set_option autoImplicit false

namespace PageImages

/-- A rectangle of pixels. -/
structure Raster (α : Type) where
  /-- The number of columns. -/
  width : Nat
  /-- The number of rows. -/
  height : Nat
  /-- The rows, top to bottom. -/
  rows : List (List α)
  /-- There are as many rows as the height says. -/
  rows_length : rows.length = height
  /-- Every row is as long as the width says. -/
  row_length : ∀ row ∈ rows, row.length = width
deriving DecidableEq

namespace Raster

variable {α β : Type}

/-- The pixel in column `x` and row `y`. -/
def pixel? (r : Raster α) (x y : Nat) : Option α :=
  r.rows[y]?.bind (·[x]?)

/-- All pixels, row by row. -/
def pixels (r : Raster α) : List α :=
  r.rows.flatten

/-- The raster whose pixel in column `x` and row `y` is `color x y`. -/
def generate (width height : Nat) (color : Nat → Nat → α) : Raster α where
  width := width
  height := height
  rows := (List.range height).map fun y => (List.range width).map fun x => color x y
  rows_length := by simp
  row_length := by
    intro row h
    obtain ⟨y, -, rfl⟩ := List.mem_map.1 h
    simp

/-- The first `height` rows of `width` pixels each of a list of pixels. -/
def cut (width : Nat) : (height : Nat) → List α → List (List α)
  | 0, _ => []
  | height + 1, ps => ps.take width :: cut width height (ps.drop width)

theorem length_cut (width height : Nat) (ps : List α) : (cut width height ps).length = height := by
  induction height generalizing ps with
  | zero => rfl
  | succ height ih => simp [cut, ih]

theorem length_of_mem_cut (width height : Nat) (ps : List α) (h : ps.length = height * width) :
    ∀ row ∈ cut width height ps, row.length = width := by
  induction height generalizing ps with
  | zero => simp [cut]
  | succ height ih =>
      have hw : ps.length = height * width + width := by rw [h, Nat.succ_mul]
      intro row hrow
      rcases List.mem_cons.1 hrow with rfl | hrow
      · rw [List.length_take]; omega
      · exact ih (ps.drop width) (by rw [List.length_drop]; omega) row hrow

/-- The raster with the given pixels, row by row, if there are as many as it needs. -/
def ofPixels? (width height : Nat) (ps : List α) : Option (Raster α) :=
  if h : ps.length = height * width then
    some ⟨width, height, cut width height ps, length_cut width height ps,
      length_of_mem_cut width height ps h⟩
  else none

/-- The raster with every pixel replaced by its image under `g`. -/
def map (g : α → β) (r : Raster α) : Raster β where
  width := r.width
  height := r.height
  rows := r.rows.map (·.map g)
  rows_length := by simp [r.rows_length]
  row_length := by
    intro row h
    obtain ⟨old, hold, rfl⟩ := List.mem_map.1 h
    simp [r.row_length old hold]

/-- The part of a raster inside the rectangle of `width` columns and `height` rows whose corner is in
column `x` and row `y`.  What lies outside the raster is left out. -/
def window (x y width height : Nat) (r : Raster α) : Raster α where
  width := min width (r.width - x)
  height := min height (r.height - y)
  rows := ((r.rows.drop y).take height).map fun row => (row.drop x).take width
  rows_length := by simp [r.rows_length]
  row_length := by
    intro row h
    obtain ⟨old, hold, rfl⟩ := List.mem_map.1 h
    have : old.length = r.width :=
      r.row_length old (List.mem_of_mem_drop (List.mem_of_mem_take hold))
    simp [this]

end Raster

end PageImages
