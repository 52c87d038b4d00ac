import PageImages.Proofs.Percentages
import PageImages.Proofs.Settings

/-!
**Wider crops.**

A crop that contains another one keeps all pixels that the other one keeps.  Each edge comes from a
product and a quotient that are rounded one after the other, so this rests on rounding: it keeps the
order of the numbers that are rounded.  For the same reason no percentage that passes the check
leads beyond the end of a side: rounding does not get past the side itself, which needs no rounding.

Main definitions:

* `Binary.portion` — the units of a part of a side, with both roundings;
* `Crop.Within`, `Window.Within` — one crop or window lies inside another one;
* `Crop.Unclamped` — what a percentage comes to is inside the side already.

Main results:

* `Binary.roundQuotient_mono` — **rounding keeps the order**;
* `Binary.HasUnits.portion` — product and quotient, in units;
* `Crop.position_mono` — an edge at a greater percentage is not before one at a smaller percentage;
* `Crop.window_widen` — **widening a crop loses no pixel**.
-/

set_option autoImplicit false

namespace PageImages

namespace Binary

/-! ### Rounding keeps the order -/

theorem nearestEven_bounds (num den : ℕ) :
    num / den ≤ nearestEven num den ∧ nearestEven num den ≤ num / den + 1 := by
  rcases nearestEven_cases num den with h | ⟨h, -⟩ <;> omega

/-- Rounding to the nearest whole number keeps the order. -/
theorem nearestEven_mono (den : ℕ) {num num' : ℕ} (h : num ≤ num') :
    nearestEven num den ≤ nearestEven num' den := by
  rcases (Nat.div_le_div_right h).lt_or_eq with hlt | heq
  · -- a whole number lies between the two quotients
    exact (nearestEven_bounds num den).2.trans (hlt.trans_le (nearestEven_bounds num' den).1)
  · -- the whole parts are the same, so the rests are in order
    have hrest : num % den ≤ num' % den := by
      have hnum := Nat.div_add_mod num den
      have hnum' := Nat.div_add_mod num' den
      rw [heq] at hnum
      omega
    rw [nearestEven, nearestEven, heq]
    simp only [Bool.or_eq_true, Bool.and_eq_true, decide_eq_true_eq]
    split
    · rw [if_pos (by omega)]
    · split <;> omega

theorem surplusBits_mono (precision : ℕ) {m n : ℕ} (h : m ≤ n) :
    surplusBits precision m ≤ surplusBits precision n := by
  have hlog : m.log2 ≤ n.log2 := by
    rw [Nat.log2_eq_log_two, Nat.log2_eq_log_two]
    exact Nat.log_mono_right h
  rw [surplusBits, surplusBits]
  omega

/-- Rounding does not lead beyond the power of two above a quotient. -/
theorem roundQuotient_le_pow (precision num den : ℕ) :
    roundQuotient precision num den ≤ 2 ^ (precision + surplusBits precision (num / den)) := by
  have hsmall : num / den < 2 ^ (precision + surplusBits precision (num / den)) := by
    refine Nat.lt_log2_self.trans_le (Nat.pow_le_pow_right (by decide) ?_)
    rw [surplusBits]
    omega
  rw [roundQuotient, Nat.pow_eq]
  generalize surplusBits precision (num / den) = s at hsmall
  rw [pow_add] at hsmall ⊢
  refine Nat.mul_le_mul_right _ ((nearestEven_bounds _ _).2.trans ?_)
  rw [← Nat.div_div_eq_div_mul]
  exact (Nat.div_lt_iff_lt_mul (by positivity)).2 hsmall

/-- Rounding does not lead below the power of two below a quotient with surplus bits. -/
theorem pow_le_roundQuotient {precision num den s : ℕ} (hpos : 0 < precision)
    (hs : surplusBits precision (num / den) = s + 1) :
    2 ^ (precision + s) ≤ roundQuotient precision num den := by
  have hlog : (num / den).log2 = precision + s := by
    rw [surplusBits] at hs
    omega
  have hlarge : 2 ^ (precision + s) ≤ num / den := by
    rw [← hlog]
    refine Nat.log2_self_le fun hzero => ?_
    rw [hzero, Nat.log2_zero] at hlog
    omega
  have hsplit : 2 ^ (precision + s) = 2 ^ (precision - 1) * 2 ^ (s + 1) := by
    rw [← pow_add]
    congr 1
    omega
  rw [roundQuotient, Nat.pow_eq, hs, hsplit]
  refine Nat.mul_le_mul_right _ (le_trans ?_ (nearestEven_bounds _ _).1)
  rw [← Nat.div_div_eq_div_mul, Nat.le_div_iff_mul_le (by positivity), ← hsplit]
  exact hlarge

/-- **Rounding keeps the order** of quotients with the same denominator. -/
theorem roundQuotient_mono {precision : ℕ} (hpos : 0 < precision) (den : ℕ) {num num' : ℕ}
    (h : num ≤ num') : roundQuotient precision num den ≤ roundQuotient precision num' den := by
  rcases (surplusBits_mono precision (Nat.div_le_div_right h)).lt_or_eq with hlt | heq
  · -- a power of two lies between the two quotients, and both are rounded to its side
    obtain ⟨s, hs⟩ := Nat.exists_eq_add_one_of_ne_zero (Nat.ne_zero_of_lt hlt)
    calc roundQuotient precision num den
        ≤ 2 ^ (precision + surplusBits precision (num / den)) := roundQuotient_le_pow _ _ _
      _ ≤ 2 ^ (precision + s) := Nat.pow_le_pow_right (by decide) (by omega)
      _ ≤ roundQuotient precision num' den := pow_le_roundQuotient hpos hs
  · rw [roundQuotient, roundQuotient, heq]
    exact Nat.mul_le_mul_right _ (nearestEven_mono _ h)

/-! ### A part of a side -/

variable {f : Format}

/-- The units of `side · units / whole`, where the product is rounded and then the quotient. -/
def portion (f : Format) (side whole units : ℕ) : ℕ :=
  roundQuotient f.precision (roundQuotient f.precision (side * f.one * units) f.one * f.one)
    (whole * f.one)

theorem portion_mono (hpos : 0 < f.precision) (side whole : ℕ) {units units' : ℕ}
    (h : units ≤ units') : portion f side whole units ≤ portion f side whole units' := by
  have hproduct := roundQuotient_mono hpos f.one (Nat.mul_le_mul_left (side * f.one) h)
  exact roundQuotient_mono hpos _ (Nat.mul_le_mul_right f.one hproduct)

/-- The whole of a side is exact. -/
theorem portion_whole {side whole : ℕ} (hwhole : 0 < whole)
    (hbits : side * whole < 2 ^ f.precision) :
    portion f side whole (whole * f.one) = side * f.one := by
  have hside : side < 2 ^ f.precision := (Nat.le_mul_of_pos_right side hwhole).trans_lt hbits
  have hcommon : side * whole * f.one * f.one = side * f.one * (whole * f.one) := by ring
  have hround := roundQuotient_mul_right f.precision (side * f.one) 1 (Nat.mul_pos hwhole f.one_pos)
  rw [one_mul, roundQuotient_units hside] at hround
  rw [portion, roundQuotient_product hbits, hcommon, hround]

theorem portion_le {side whole units : ℕ} (hpos : 0 < f.precision) (hwhole : 0 < whole)
    (hbits : side * whole < 2 ^ f.precision) (hunits : units ≤ whole * f.one) :
    portion f side whole units ≤ side * f.one :=
  (portion_mono hpos side whole hunits).trans_eq (portion_whole hwhole hbits)

/-- **The part of a side is finite**, and its units are those of the product and the quotient, each
rounded once. -/
theorem HasUnits.portion {x y z : Binary f} {side whole units : ℕ} (hx : x.HasUnits (side * f.one))
    (hy : y.HasUnits units) (hz : z.HasUnits (whole * f.one)) (hpos : 0 < f.precision)
    (hwhole : 0 < whole) (hunits : units ≤ whole * f.one) (hbits : side * whole < 2 ^ f.precision)
    (hrange : side * whole < 2 ^ f.range) :
    ((x.mul y).div z).HasUnits (portion f side whole units) := by
  have hside : side < 2 ^ f.range := (Nat.le_mul_of_pos_right side hwhole).trans_lt hrange
  have hmul : roundQuotient f.precision (side * f.one * units) f.one < f.limit :=
    calc roundQuotient f.precision (side * f.one * units) f.one
        ≤ roundQuotient f.precision (side * f.one * (whole * f.one)) f.one :=
          roundQuotient_mono hpos _ (Nat.mul_le_mul_left _ hunits)
      _ = side * whole * f.one := roundQuotient_product hbits
      _ < f.limit := f.mul_one_lt_limit hrange
  have hdiv : Binary.portion f side whole units < f.limit :=
    (portion_le hpos hwhole hbits hunits).trans_lt (f.mul_one_lt_limit hside)
  exact (hx.mul hy hmul).div hz (Nat.mul_pos hwhole f.one_pos).ne' hdiv

end Binary

/-! ### Edges of wider crops -/

namespace Crop

/-- What a percentage of a side comes to is inside the side, before it is made to be. -/
structure Unclamped (side : ℕ) (percent : Binary64) : Prop where
  /-- It is not below zero and not beyond the side. -/
  between : (floored side percent).between Binary.zero (Binary.ofNat side) = true
  /-- So nothing is done to keep it there. -/
  clamp : (floored side percent).clamp Binary.zero (Binary.ofNat side) = floored side percent
  /-- The edge is this number of pixels. -/
  number : (floored side percent).number? = some (position side percent : ℚ)

/-- The number of whole pixels in a part of a side, which is given in units of a percentage. -/
def edge (side units : ℕ) : ℕ :=
  Binary.portion Binary.binary64 side 100 units / Binary.binary64.one

theorem edge_mono (side : ℕ) {units units' : ℕ} (h : units ≤ units') :
    edge side units ≤ edge side units' :=
  Nat.div_le_div_right (Binary.portion_mono (by decide) side 100 h)

theorem hundred_mul_lt {side : ℕ} (hside : side < UInt32.size) :
    side * 100 < 2 ^ Binary.binary64.precision ∧ side * 100 < 2 ^ Binary.binary64.range := by
  have hsize : UInt32.size * 100 ≤ 2 ^ Binary.binary64.precision := by decide
  have hrange : (2 : ℕ) ^ Binary.binary64.precision ≤ 2 ^ Binary.binary64.range :=
    Nat.pow_le_pow_right (by decide) (by decide)
  omega

theorem edge_le {side units : ℕ} (hside : side < UInt32.size)
    (hunits : units ≤ 100 * Binary.binary64.one) : edge side units ≤ side := by
  have hle := Binary.portion_le (f := Binary.binary64) (by decide) (by decide)
    (hundred_mul_lt hside).1 hunits
  exact Nat.div_le_of_le_mul (hle.trans_eq (mul_comm _ _))

/-- What a percentage comes to, in units. -/
theorem hasUnits_floored {side units : ℕ} (hside : side < UInt32.size) {percent : Binary64}
    (hpercent : percent.HasUnits units) (hunits : units ≤ 100 * Binary.binary64.one) :
    (floored side percent).HasUnits (edge side units * Binary.binary64.one) := by
  obtain ⟨hbits, hrange⟩ := hundred_mul_lt hside
  have hhundred : (Binary.ofNat 100 : Binary64).HasUnits (100 * Binary.binary64.one) :=
    Binary.hasUnits_ofNat (by decide)
  have hportion := (Binary.hasUnits_ofNat hside).portion hpercent hhundred (by decide) (by decide)
    hunits hbits hrange
  exact hportion.floor

theorem exists_units {percent : Binary64} (h : isPercentage percent = true) :
    ∃ units ≤ 100 * Binary.binary64.one, percent.HasUnits units :=
  Binary.exists_hasUnits (Binary.hasUnits_ofNat (by decide)) h

/-- **A percentage that passes the check does not lead out of a side.** -/
theorem unclamped {side : ℕ} (hside : side < UInt32.size) {percent : Binary64}
    (h : isPercentage percent = true) : Unclamped side percent := by
  obtain ⟨units, hunits, hpercent⟩ := exists_units h
  have hfloored := hasUnits_floored hside hpercent hunits
  have hedge := edge_le hside hunits
  have hlength := Binary.hasUnits_ofNat hside
  have hle := Nat.mul_le_mul_right Binary.binary64.one hedge
  refine ⟨?_, hfloored.clamp_eq hlength hle, ?_⟩
  · rw [Binary.between, Bool.and_eq_true]
    exact ⟨(Binary.hasUnits_zero.le_iff hfloored).2 (Nat.zero_le _),
      (hfloored.le_iff hlength).2 hle⟩
  · rw [position_of_floored hside hfloored hedge]
    exact hfloored.number?_eq

/-- **An edge at a greater percentage is not before one at a smaller percentage.** -/
theorem position_mono {side : ℕ} (hside : side < UInt32.size) {x y : Binary64}
    (hx : isPercentage x = true) (hy : isPercentage y = true) (h : x.le y = true) :
    position side x ≤ position side y := by
  obtain ⟨a, ha, hxa⟩ := exists_units hx
  obtain ⟨b, hb, hyb⟩ := exists_units hy
  rw [position_of_floored hside (hasUnits_floored hside hxa ha) (edge_le hside ha),
    position_of_floored hside (hasUnits_floored hside hyb hb) (edge_le hside hb)]
  exact edge_mono side ((hxa.le_iff hyb).1 h)

end Crop

/-! ### Windows of wider crops -/

/-- The part of an axis lies inside another part of it. -/
def Span.Within (inner outer : Span) : Prop :=
  outer.start.le inner.start = true ∧ inner.stop.le outer.stop = true

/-- The crop lies inside another one. -/
structure Crop.Within (inner outer : Crop) : Prop where
  horizontal : inner.horizontal.Within outer.horizontal
  vertical : inner.vertical.Within outer.vertical

/-- The window lies inside another one. -/
structure Window.Within (inner outer : Window) : Prop where
  left : outer.left ≤ inner.left
  right : inner.right ≤ outer.right
  top : outer.top ≤ inner.top
  bottom : inner.bottom ≤ outer.bottom

namespace Crop

theorem valid_of_check {crop checked : Crop} (h : crop.check = .ok checked) :
    crop.horizontal.Valid ∧ crop.vertical.Valid := by
  rw [← fault?_eq_none_iff]
  rw [check] at h
  cases hfault : crop.fault? with
  | none => rfl
  | some fault =>
      simp only [hfault] at h
      cases h

/-- The edges of a part of a side are not inside those of a part of that part. -/
theorem position_within {side : ℕ} (hside : side < UInt32.size) {inner outer : Span}
    (hinner : inner.Valid) (houter : outer.Valid) (h : inner.Within outer) :
    position side outer.start ≤ position side inner.start ∧
      position side inner.stop ≤ position side outer.stop := by
  obtain ⟨hstart, hstop, -⟩ := inner.valid_iff.1 hinner
  obtain ⟨hstart', hstop', -⟩ := outer.valid_iff.1 houter
  exact ⟨position_mono hside hstart' hstart h.1, position_mono hside hstop hstop' h.2⟩

/-- The edges of a part of a side that passes the check are inside the side, unaltered. -/
theorem unclamped_span {side : ℕ} (hside : side < UInt32.size) {span : Span} (h : span.Valid) :
    Unclamped side span.start ∧ Unclamped side span.stop := by
  obtain ⟨hstart, hstop, -⟩ := span.valid_iff.1 h
  exact ⟨unclamped hside hstart, unclamped hside hstop⟩

/-- **Widening a crop loses no pixel.**  If a crop that passes the check has a window on a raster,
so has every such crop that contains it, and that window contains the first one.  What the
percentages of a crop that passes the check come to is inside the raster already: nothing is altered
to keep it there. -/
theorem window_widen {width height : ℕ} (hwidth : width < UInt32.size)
    (hheight : height < UInt32.size) :
    (∀ inner outer : Crop, inner.check = .ok inner → outer.check = .ok outer → inner.Within outer →
      ∀ w, inner.window? width height = some w →
        ∃ w', outer.window? width height = some w' ∧ w.Within w') ∧
    ∀ crop : Crop, crop.check = .ok crop →
      (Unclamped width crop.horizontal.start ∧ Unclamped width crop.horizontal.stop) ∧
      (Unclamped height crop.vertical.start ∧ Unclamped height crop.vertical.stop) := by
  refine ⟨fun inner outer hinner houter hwithin w hw => ?_, fun crop hcrop => ?_⟩
  · obtain ⟨hcolumns, hrows⟩ := valid_of_check hinner
    obtain ⟨hcolumns', hrows'⟩ := valid_of_check houter
    obtain ⟨hleft, hright⟩ := position_within hwidth hcolumns hcolumns' hwithin.horizontal
    obtain ⟨htop, hbottom⟩ := position_within hheight hrows hrows' hwithin.vertical
    obtain ⟨⟨h₁, h₂, h₃, h₄⟩, hcolumn, hrow⟩ := window?_eq_some_iff.1 hw
    rw [h₁] at hleft
    rw [h₂] at htop
    rw [h₃] at hright
    rw [h₄] at hbottom
    -- the edges of the wider crop by name, so that nothing computes them
    generalize hl : position width outer.horizontal.start = left at hleft
    generalize ht : position height outer.vertical.start = top at htop
    generalize hr : position width outer.horizontal.stop = right at hright
    generalize hb : position height outer.vertical.stop = bottom at hbottom
    refine ⟨⟨left, top, right, bottom⟩, window?_eq_some_iff.2 ⟨⟨hl, ht, hr, hb⟩, ?_, ?_⟩,
      hleft, hright, htop, hbottom⟩
    · exact hleft.trans_lt (hcolumn.trans_le hright)
    · exact htop.trans_lt (hrow.trans_le hbottom)
  · obtain ⟨hcolumns, hrows⟩ := valid_of_check hcrop
    exact ⟨unclamped_span hwidth hcolumns, unclamped_span hheight hrows⟩

end Crop

/-- The second and third of seven columns, and rows from a half on: the ends of the columns are the
values next below one and three sevenths, and the last row is the value next below all rows. -/
def Sample.narrowCrop : Crop :=
  ⟨true, ⟨.finite false (2010535547933257 * Nat.pow 2 1027),
      .finite false (6031606643799771 * Nat.pow 2 1027)⟩,
    ⟨Binary.ofNat 50, .finite false (7036874417766399 * Nat.pow 2 1028)⟩⟩

/-- From negative zero to the value next below all columns, and the rows from a half on. -/
def Sample.wideCrop : Crop :=
  ⟨true, ⟨Binary.zero.neg, .finite false (7036874417766399 * Nat.pow 2 1028)⟩,
    ⟨Binary.ofNat 50, Binary.ofNat 100⟩⟩

/-- The exact edges of the narrow crop are just below the columns 1 and 3; rounding leads there. -/
theorem Crop.window_widen_sample :
    Sample.narrowCrop.window? 7 4294967295 = some ⟨1, 2147483647, 3, 4294967294⟩ ∧
    Sample.wideCrop.window? 7 4294967295 = some ⟨0, 2147483647, 6, 4294967295⟩ ∧
    Window.Within ⟨1, 2147483647, 3, 4294967294⟩ ⟨0, 2147483647, 6, 4294967295⟩ ∧
    Unclamped 7 Sample.wideCrop.horizontal.start := by
  obtain ⟨hwiden, hinside⟩ := Crop.window_widen (by decide : 7 < UInt32.size)
    (by decide : 4294967295 < UInt32.size)
  have hnarrow : Sample.narrowCrop.window? 7 4294967295 = some ⟨1, 2147483647, 3, 4294967294⟩ := by
    decide +kernel
  have hwide : Sample.wideCrop.window? 7 4294967295 = some ⟨0, 2147483647, 6, 4294967295⟩ := by
    decide +kernel
  have hcheck : Sample.narrowCrop.check = .ok Sample.narrowCrop := by decide +kernel
  have hcheck' : Sample.wideCrop.check = .ok Sample.wideCrop := by decide +kernel
  have hwithin : Sample.narrowCrop.Within Sample.wideCrop :=
    ⟨⟨by decide +kernel, by decide +kernel⟩, by decide +kernel, by decide +kernel⟩
  obtain ⟨w, hw, hwindow⟩ := hwiden _ _ hcheck hcheck' hwithin _ hnarrow
  rw [hwide] at hw
  cases hw
  exact ⟨hnarrow, hwide, hwindow, (hinside _ hcheck').1.1⟩

end PageImages
