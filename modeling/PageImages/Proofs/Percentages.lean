import PageImages.Proofs.Binary
import PageImages.Proofs.Crop

/-!
**Whole percentages are exact.**

An edge of a window is the floor of a product and a quotient that are rounded one after the other.
For a whole percentage nothing is lost: the product of two whole numbers with few bits needs no
rounding, and a quotient of whole numbers that is not whole itself is so far below the next whole
number that rounding does not get there.

Main definitions: `Crop.floored`, `Crop.IsWholePercentage`.

Main results:

* `Binary.roundQuotient_product` — the product of whole numbers is exact;
* `Binary.roundQuotient_whole`, `Binary.HasUnits.div_whole` — **rounding a quotient of whole numbers
  keeps its whole part**;
* `Crop.position_whole` — an edge at a whole percentage is the whole part of the exact quotient;
* `Crop.window_whole` — windows of crops with whole percentages.
-/

set_option autoImplicit false

namespace PageImages

namespace Binary

/-! ### Rounding to the nearest whole number -/

/-- A quotient is rounded down, or it is rounded up and the rest is at least a half. -/
theorem nearestEven_cases (num den : ℕ) :
    nearestEven num den = num / den ∨
      (nearestEven num den = num / den + 1 ∧ den ≤ 2 * (num % den)) := by
  rw [nearestEven]
  simp only [Bool.or_eq_true, Bool.and_eq_true, decide_eq_true_eq]
  split
  · next h => exact Or.inr ⟨rfl, by omega⟩
  · exact Or.inl rfl

/-- Rounding keeps the whole part of `num / (den * k)`, counted in `k`-th parts, if `num` is more
than a half of a part away from the next whole number. -/
theorem nearestEven_div {num den k : ℕ} (hk : 0 < k)
    (hgap : 2 * num + den < 2 * (den * (k * (num / (den * k) + 1)))) :
    nearestEven num den / k = num / (den * k) := by
  have hdown : num / den / k = num / (den * k) := Nat.div_div_eq_div_mul num den k
  rcases nearestEven_cases num den with h | ⟨h, hhalf⟩
  · rw [h, hdown]
  · rw [h, ← hdown]
    rw [← hdown] at hgap
    -- one part more is still below the next whole number
    have hnext : num / den + 1 < k * (num / den / k + 1) := by
      refine Nat.lt_of_mul_lt_mul_left (a := 2 * den) ?_
      have hsplit := Nat.div_add_mod num den
      calc 2 * den * (num / den + 1) = 2 * (den * (num / den)) + 2 * den := by ring
        _ ≤ 2 * num + den := by omega
        _ < 2 * den * (k * (num / den / k + 1)) := by rw [mul_assoc]; exact hgap
    refine le_antisymm ?_ (Nat.div_le_div_right (Nat.le_succ _))
    exact Nat.le_of_lt_succ ((Nat.div_lt_iff_lt_mul hk).2 (by rw [mul_comm]; exact hnext))

theorem nearestEven_mul_right (num den : ℕ) {c : ℕ} (hc : 0 < c) :
    nearestEven (num * c) (den * c) = nearestEven num den := by
  rw [nearestEven, nearestEven, Nat.mul_div_mul_right _ _ hc, Nat.mul_mod_mul_right, ← mul_assoc]
  simp only [gt_iff_lt, Nat.mul_lt_mul_right hc, Nat.mul_left_inj hc.ne']

/-- A common factor makes no difference to a rounded quotient. -/
theorem roundQuotient_mul_right (precision num den : ℕ) {c : ℕ} (hc : 0 < c) :
    roundQuotient precision (num * c) (den * c) = roundQuotient precision num den := by
  rw [roundQuotient, roundQuotient, Nat.mul_div_mul_right _ _ hc, Nat.mul_right_comm den c,
    nearestEven_mul_right _ _ hc]

/-! ### Products and quotients of whole numbers -/

variable {f : Format}

/-- **The product of whole numbers is exact**, if it has few bits. -/
theorem roundQuotient_product {m n : ℕ} (h : m * n < 2 ^ f.precision) :
    roundQuotient f.precision (m * f.one * (n * f.one)) f.one = m * n * f.one := by
  have hunits : m * f.one * (n * f.one) = m * n * f.one * f.one := by ring
  have hround := roundQuotient_mul_right f.precision (m * n * f.one) 1 f.one_pos
  rw [one_mul] at hround
  rw [hunits, hround, roundQuotient_units h]

theorem HasUnits.mul_whole {x y : Binary f} {m n : ℕ} (hx : x.HasUnits (m * f.one))
    (hy : y.HasUnits (n * f.one)) (hprecision : m * n < 2 ^ f.precision)
    (hrange : m * n < 2 ^ f.range) : (x.mul y).HasUnits (m * n * f.one) := by
  have hproduct := roundQuotient_product hprecision
  rw [← hproduct]
  exact hx.mul hy (by rw [hproduct]; exact f.mul_one_lt_limit hrange)

/-- A quotient of whole numbers, in units, has few surplus bits. -/
theorem surplusBits_quotient_le {n d e w : ℕ} (hd : 0 < d) (hn : n < d * 2 ^ w)
    (hroom : e + w ≤ f.precision) (hpos : 0 < f.precision) (hscale : f.precision ≤ f.scale) :
    surplusBits f.precision (n * f.one / d) ≤ f.scale - e := by
  have hlog : (n * f.one / d).log2 < w + f.scale := by
    by_cases hzero : n * f.one / d = 0
    · rw [hzero, Nat.log2_zero]
      omega
    · have hone : f.one = 2 ^ f.scale := rfl
      rw [Nat.log2_lt hzero, Nat.div_lt_iff_lt_mul hd, pow_add, hone, mul_right_comm, mul_comm _ d]
      exact Nat.mul_lt_mul_of_pos_right hn (by positivity)
  rw [surplusBits]
  omega

/-- **Rounding a quotient of whole numbers keeps its whole part**, if the bits of the denominator
and of the quotient do not take more room than there is. -/
theorem roundQuotient_whole {n d e w : ℕ} (hd : 0 < d) (hde : d ≤ 2 ^ e) (hn : n < d * 2 ^ w)
    (hroom : e + w ≤ f.precision) (hpos : 0 < f.precision) (hscale : f.precision ≤ f.scale) :
    roundQuotient f.precision (n * f.one) d / f.one = n / d := by
  have hone : f.one = 2 ^ f.scale := rfl
  have hbits := surplusBits_quotient_le hd hn hroom hpos hscale
  rw [roundQuotient, Nat.pow_eq]
  -- one is made of parts, to which the quotient is rounded
  generalize surplusBits f.precision (n * f.one / d) = s at hbits
  have hparts : f.one = 2 ^ (f.scale - s) * 2 ^ s := by
    rw [hone, ← pow_add, Nat.sub_add_cancel (hbits.trans (Nat.sub_le _ _))]
  have hwhole : d * 2 ^ s * 2 ^ (f.scale - s) = d * f.one := by
    rw [hparts]
    ring
  have hsmall : d * 2 ^ s ≤ f.one := by
    calc d * 2 ^ s ≤ 2 ^ e * 2 ^ (f.scale - e) :=
          Nat.mul_le_mul hde (Nat.pow_le_pow_right (by decide) hbits)
      _ = f.one := by rw [hone, ← pow_add, Nat.add_sub_cancel' (by omega)]
  have hquotient : n * f.one / (d * f.one) = n / d := Nat.mul_div_mul_right _ _ f.one_pos
  -- the numerator is a whole unit away from the next multiple of the denominator
  have hgap : 2 * (n * f.one) + d * 2 ^ s
      < 2 * (d * 2 ^ s *
        (2 ^ (f.scale - s) * (n * f.one / (d * 2 ^ s * 2 ^ (f.scale - s)) + 1))) := by
    have hnext : n + 1 ≤ d * (n / d + 1) := Nat.lt_mul_div_succ n hd
    have hpositive := f.one_pos
    rw [← mul_assoc (d * 2 ^ s), hwhole, hquotient]
    calc 2 * (n * f.one) + d * 2 ^ s < 2 * (n * f.one) + 2 * f.one := by omega
      _ = 2 * ((n + 1) * f.one) := by ring
      _ ≤ 2 * (d * (n / d + 1) * f.one) := by gcongr
      _ = 2 * (d * f.one * (n / d + 1)) := by ring
  have hround := nearestEven_div (by positivity) hgap
  rw [hwhole, hquotient] at hround
  nth_rewrite 2 [hparts]
  rw [Nat.mul_div_mul_right _ _ (by positivity), hround]

/-- The rounded quotient of whole numbers is finite and has the whole part of the exact one. -/
theorem HasUnits.div_whole {x y : Binary f} {n d e w : ℕ} (hx : x.HasUnits (n * f.one))
    (hy : y.HasUnits (d * f.one)) (hd : 0 < d) (hde : d ≤ 2 ^ e) (hn : n < d * 2 ^ w)
    (hroom : e + w ≤ f.precision) (hpos : 0 < f.precision) (hscale : f.precision ≤ f.scale)
    (hrange : w ≤ f.range) : ∃ units, (x.div y).HasUnits units ∧ units / f.one = n / d := by
  have hwhole := roundQuotient_whole hd hde hn hroom hpos hscale
  have hlimit : roundQuotient f.precision (n * f.one) d < f.limit := by
    have hquotient : n / d < 2 ^ f.range :=
      calc n / d < 2 ^ w := (Nat.div_lt_iff_lt_mul hd).2 (by rwa [mul_comm])
        _ ≤ 2 ^ f.range := Nat.pow_le_pow_right (by decide) hrange
    rw [← hwhole, Nat.div_lt_iff_lt_mul f.one_pos] at hquotient
    rwa [Format.limit, Nat.pow_eq, pow_add]
  rw [← roundQuotient_mul_right f.precision _ _ f.one_pos] at hwhole hlimit
  exact ⟨_, hx.div hy (Nat.mul_pos hd f.one_pos).ne' hlimit, hwhole⟩

end Binary

/-! ### Edges of a window -/

namespace Crop

/-- The value is the whole percentage `k`. -/
def IsWholePercentage (x : Binary64) (k : ℕ) : Prop :=
  k ≤ 100 ∧ x.number? = some (k : ℚ)

theorem isWholePercentage_ofNat {k : ℕ} (hk : k ≤ 100) : IsWholePercentage (Binary.ofNat k) k := by
  have hsize : (100 : ℕ) < UInt32.size := by decide
  exact ⟨hk, (Binary.hasUnits_ofNat (by omega)).number?_eq⟩

/-- What a percentage of a side comes to in whole pixels, before it is kept inside the side. -/
def floored (side : ℕ) (percent : Binary64) : Binary64 :=
  (((Binary.ofNat side).mul percent).div (Binary.ofNat 100)).floor

theorem position_eq (side : ℕ) (percent : Binary64) :
    position side percent
      = ((floored side percent).clamp Binary.zero (Binary.ofNat side)).toNat longestSide := rfl

/-- A whole number of pixels that is not beyond the side is kept. -/
theorem position_of_floored {side n : ℕ} (hside : side < UInt32.size) {percent : Binary64}
    (h : (floored side percent).HasUnits (n * Binary.binary64.one)) (hn : n ≤ side) :
    position side percent = n := by
  have hclamp := h.clamp_eq (Binary.hasUnits_ofNat hside) (Nat.mul_le_mul_right _ hn)
  have hlongest : n ≤ longestSide := by
    rw [longestSide]
    omega
  rw [position_eq, hclamp, h.toNat_eq hlongest]

/-- **An edge at a whole percentage** is the whole part of the exact quotient. -/
theorem position_whole {side k : ℕ} (hside : side < UInt32.size) {percent : Binary64}
    (hpercent : IsWholePercentage percent k) : position side percent = side * k / 100 := by
  obtain ⟨hk, hnumber⟩ := hpercent
  have hsize : UInt32.size = 2 ^ 32 := rfl
  have hproduct : side * k < 100 * 2 ^ 32 := by
    calc side * k ≤ side * 100 := Nat.mul_le_mul_left side hk
      _ < 100 * 2 ^ 32 := by omega
  have hprecision : side * k < 2 ^ Binary.binary64.precision := hproduct.trans_le (by decide)
  have hrange : side * k < 2 ^ Binary.binary64.range :=
    hprecision.trans_le (Nat.pow_le_pow_right (by decide) (by decide))
  have hmul := (Binary.hasUnits_ofNat hside).mul_whole (Binary.hasUnits_of_number? hnumber)
    hprecision hrange
  obtain ⟨units, hdiv, hwhole⟩ : ∃ units, _ ∧ units / Binary.binary64.one = side * k / 100 :=
    hmul.div_whole (e := 7) (w := 32) (Binary.hasUnits_ofNat (by decide)) (by decide) (by decide)
      hproduct (by decide) (by decide) (by decide) (by decide)
  have hfloor := hdiv.floor
  rw [hwhole] at hfloor
  refine position_of_floored hside hfloor ?_
  calc side * k / 100 ≤ side * 100 / 100 := Nat.div_le_div_right (Nat.mul_le_mul_left side hk)
    _ = side := Nat.mul_div_cancel side (by decide)

theorem window?_eq (crop : Crop) {width height left top right bottom : ℕ}
    (hleft : position width crop.horizontal.start = left)
    (htop : position height crop.vertical.start = top)
    (hright : position width crop.horizontal.stop = right)
    (hbottom : position height crop.vertical.stop = bottom) :
    crop.window? width height
      = if left < right ∧ top < bottom then some ⟨left, top, right, bottom⟩ else none := by
  rw [window?, hleft, htop, hright, hbottom]
  simp only [Bool.or_eq_true, decide_eq_true_eq]
  by_cases h : left < right ∧ top < bottom
  · rw [if_pos h, if_neg (by omega)]
  · rw [if_neg h, if_pos (by omega)]

/-- **Windows of crops with whole percentages are exact.**  Each edge is the whole part of the exact
quotient; these edges make up the window if they are in strict order on both axes, and otherwise
there is no window.  From nothing to a hundred the window is the whole raster. -/
theorem window_whole {crop : Crop} {width height left top right bottom : ℕ}
    (hwidth : width < UInt32.size) (hheight : height < UInt32.size)
    (hleft : IsWholePercentage crop.horizontal.start left)
    (hright : IsWholePercentage crop.horizontal.stop right)
    (htop : IsWholePercentage crop.vertical.start top)
    (hbottom : IsWholePercentage crop.vertical.stop bottom) :
    let w : Window :=
      ⟨width * left / 100, height * top / 100, width * right / 100, height * bottom / 100⟩
    position width crop.horizontal.start = w.left ∧ position width crop.horizontal.stop = w.right ∧
    position height crop.vertical.start = w.top ∧ position height crop.vertical.stop = w.bottom ∧
    crop.window? width height
      = (if w.left < w.right ∧ w.top < w.bottom then some w else none) ∧
    (left = 0 → right = 100 → top = 0 → bottom = 100 → 0 < width → 0 < height →
      crop.window? width height = some ⟨0, 0, width, height⟩) := by
  intro w
  have hl := position_whole hwidth hleft
  have hr := position_whole hwidth hright
  have ht := position_whole hheight htop
  have hb := position_whole hheight hbottom
  have hwindow := window?_eq crop hl ht hr hb
  refine ⟨hl, hr, ht, hb, hwindow, ?_⟩
  rintro rfl rfl rfl rfl hcolumns hrows
  rw [hwindow, Nat.mul_zero, Nat.mul_zero, Nat.zero_div, Nat.mul_div_cancel _ (by decide),
    Nat.mul_div_cancel _ (by decide), if_pos ⟨hcolumns, hrows⟩]

/-- From negative zero to 29 percent of the longest side, and from 25 percent of another side to its
end: the exact edges are 0, 1245540515.55, 83.25 and 333. -/
theorem window_whole_sample :
    window? 4294967295 333
        ⟨true, ⟨Binary.zero.neg, Binary.ofNat 29⟩, ⟨Binary.ofNat 25, Binary.ofNat 100⟩⟩
      = some ⟨0, 83, 1245540515, 333⟩ := by
  have hzero : IsWholePercentage Binary.zero.neg 0 :=
    ⟨Nat.zero_le _, by rw [Binary.number?_neg_zero, Nat.cast_zero]⟩
  have hright : IsWholePercentage (Binary.ofNat 29) 29 := isWholePercentage_ofNat (by decide)
  have htop : IsWholePercentage (Binary.ofNat 25) 25 := isWholePercentage_ofNat (by decide)
  have hbottom : IsWholePercentage (Binary.ofNat 100) 100 := isWholePercentage_ofNat le_rfl
  obtain ⟨-, -, -, -, hwindow, -⟩ := @window_whole
    ⟨true, ⟨Binary.zero.neg, Binary.ofNat 29⟩, ⟨Binary.ofNat 25, Binary.ofNat 100⟩⟩
    4294967295 333 0 25 29 100 (by decide) (by decide) hzero (by dsimp only; exact hright)
    (by dsimp only; exact htop) (by dsimp only; exact hbottom)
  rw [hwindow]
  decide

end Crop

end PageImages
