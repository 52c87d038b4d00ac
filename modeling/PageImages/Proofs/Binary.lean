import Mathlib
import PageImages.Binary.Basic

/-!
**The numbers behind floating-point values.**

A finite value stands for a number, an infinite one and `nan` for none.  Comparing two values that
stand for numbers compares the numbers; both zeros stand for the same one.

Main definitions:

* `Binary.number?` — the number that a value stands for;
* `Binary.HasUnits` — the value is not below zero and has so many units, whatever its sign.

Main results:

* `Binary.le_eq_true_iff`, `Binary.between_eq_true_iff` — when values are in order, in terms of
  their numbers;
* `Binary.roundQuotient_units`, `Binary.ofNat_eq` — a whole number with few bits needs no rounding;
* `Binary.HasUnits.mul`, `Binary.HasUnits.div`, `Binary.HasUnits.floor`,
  `Binary.HasUnits.clamp_eq` — the operations on values that are not below zero;
* `Binary.toNat_clamp_le` — a value that is kept at or below a whole number.
-/

set_option autoImplicit false

namespace PageImages.Binary

variable {f : Format}

/-- The number that a value stands for, if it stands for one. -/
def number? : Binary f → Option ℚ
  | .finite negative units => some ((signed negative units : ℚ) / (f.one : ℚ))
  | .infinite _ => none
  | .nan => none

theorem Format.one_pos (f : Format) : 0 < f.one := Nat.pow_pos (by decide)

theorem one_pos (f : Format) : (0 : ℚ) < (f.one : ℚ) := by
  exact_mod_cast f.one_pos

/-- Finite values are in order when their numbers are. -/
theorem le_eq_true_iff {x y : Binary f} {a b : ℚ} (hx : x.number? = some a)
    (hy : y.number? = some b) : x.le y = true ↔ a ≤ b := by
  cases x with
  | infinite negative => cases hx
  | nan => cases hx
  | finite negative units =>
      cases y with
      | infinite negative' => cases hy
      | nan => cases hy
      | finite negative' units' =>
          cases hx
          cases hy
          rw [le, decide_eq_true_eq, div_le_div_iff_of_pos_right (one_pos f)]
          exact Int.cast_le.symm

/-- What lies between two numbers is a number. -/
theorem between_eq_true_iff {x low high : Binary f} {a b : ℚ} (hlow : low.number? = some a)
    (hhigh : high.number? = some b) :
    x.between low high = true ↔ ∃ c, x.number? = some c ∧ a ≤ c ∧ c ≤ b := by
  rw [between, Bool.and_eq_true]
  cases hx : x.number? with
  | some c =>
      rw [le_eq_true_iff hlow hx, le_eq_true_iff hx hhigh]
      simp only [Option.some.injEq, exists_eq_left']
  | none =>
      -- an infinite value is beyond one of the two, and `nan` is comparable with nothing
      simp only [reduceCtorEq, false_and, exists_false, iff_false, not_and]
      cases low with
      | infinite negative => cases hlow
      | nan => cases hlow
      | finite negative units =>
          cases high with
          | infinite negative' => cases hhigh
          | nan => cases hhigh
          | finite negative' units' =>
              cases x with
              | finite negative'' units'' => cases hx
              | nan => exact fun h => absurd h Bool.false_ne_true
              | infinite negative'' => cases negative'' <;> simp [le]

@[simp] theorem number?_zero : (zero : Binary f).number? = some 0 := by
  rw [zero, number?, signed, if_neg Bool.false_ne_true]
  simp

theorem number?_neg_zero : (zero : Binary f).neg.number? = some 0 := by
  rw [zero, neg, number?, signed]
  simp

/-! ### Values that are not below zero -/

/-- The value is not below zero and has this many units.  Zero may have either sign. -/
def HasUnits (x : Binary f) (units : ℕ) : Prop :=
  ∃ negative, x = .finite negative units ∧ (negative = true → units = 0)

theorem hasUnits_finite (units : ℕ) : (finite false units : Binary f).HasUnits units :=
  ⟨false, rfl, fun h => absurd h Bool.false_ne_true⟩

theorem hasUnits_zero : (zero : Binary f).HasUnits 0 :=
  hasUnits_finite 0

/-- The sign does not matter. -/
theorem signed_eq {negative : Bool} {units : ℕ} (h : negative = true → units = 0) :
    signed negative units = units := by
  cases negative with
  | false => rfl
  | true => rw [h rfl]; rfl

theorem HasUnits.le_iff {x y : Binary f} {a b : ℕ} (hx : x.HasUnits a) (hy : y.HasUnits b) :
    x.le y = true ↔ a ≤ b := by
  obtain ⟨n, rfl, hn⟩ := hx
  obtain ⟨m, rfl, hm⟩ := hy
  rw [le, decide_eq_true_eq, signed_eq hn, signed_eq hm, Int.ofNat_le]

theorem HasUnits.lt_iff {x y : Binary f} {a b : ℕ} (hx : x.HasUnits a) (hy : y.HasUnits b) :
    x.lt y = true ↔ a < b := by
  obtain ⟨n, rfl, hn⟩ := hx
  obtain ⟨m, rfl, hm⟩ := hy
  rw [lt, decide_eq_true_eq, signed_eq hn, signed_eq hm, Int.ofNat_lt]

/-- A whole number of ones stands for that number. -/
theorem HasUnits.number?_eq {x : Binary f} {n : ℕ} (hx : x.HasUnits (n * f.one)) :
    x.number? = some (n : ℚ) := by
  obtain ⟨negative, rfl, hsign⟩ := hx
  rw [number?, signed_eq hsign]
  push_cast
  rw [mul_div_assoc, div_self (one_pos f).ne', mul_one]

/-- A value that stands for a whole number is that number of ones. -/
theorem hasUnits_of_number? {x : Binary f} {n : ℕ} (h : x.number? = some (n : ℚ)) :
    x.HasUnits (n * f.one) := by
  cases x with
  | infinite negative => cases h
  | nan => cases h
  | finite negative units =>
      rw [number?, Option.some.injEq, div_eq_iff (one_pos f).ne'] at h
      have hsigned : signed negative units = ((n * f.one : ℕ) : ℤ) := by exact_mod_cast h
      cases negative with
      | false =>
          have hunits : units = n * f.one := Int.ofNat_inj.1 hsigned
          rw [hunits]
          exact hasUnits_finite _
      | true =>
          have hneg : -(units : ℤ) = ((n * f.one : ℕ) : ℤ) := hsigned
          refine ⟨true, ?_, fun _ => by omega⟩
          congr 1
          omega

/-- What lies between zero and a finite value is finite. -/
theorem exists_hasUnits {x high : Binary f} {most : ℕ} (hhigh : high.HasUnits most)
    (h : x.between zero high = true) : ∃ units ≤ most, x.HasUnits units := by
  obtain ⟨n, rfl, hn⟩ := hhigh
  rw [between, Bool.and_eq_true] at h
  obtain ⟨hlow, hhigh⟩ := h
  cases x with
  | nan => cases hlow
  | infinite negative =>
      cases negative with
      | true => cases hlow
      | false => cases hhigh
  | finite negative units =>
      have hpos : (0 : ℤ) ≤ signed negative units := of_decide_eq_true hlow
      have hsign : negative = true → units = 0 := by
        rintro rfl
        have : (0 : ℤ) ≤ -(units : ℤ) := hpos
        omega
      have hx : (finite negative units : Binary f).HasUnits units := ⟨negative, rfl, hsign⟩
      exact ⟨units, (hx.le_iff ⟨n, rfl, hn⟩).1 hhigh, hx⟩

theorem roundQuotient_zero (precision den : ℕ) : roundQuotient precision 0 den = 0 := by
  rw [roundQuotient, nearestEven]
  simp

theorem hasUnits_ofQuotient {negative : Bool} {num den : ℕ} (hsign : negative = true → num = 0)
    (hlimit : roundQuotient f.precision num den < f.limit) :
    (ofQuotient negative num den : Binary f).HasUnits (roundQuotient f.precision num den) := by
  rw [ofQuotient, if_pos hlimit]
  refine ⟨negative, rfl, fun h => ?_⟩
  rw [hsign h, roundQuotient_zero]

/-- The product has a negative sign only if it is zero. -/
theorem mul_eq_zero_of_bne {n m : Bool} {a b : ℕ} (hn : n = true → a = 0) (hm : m = true → b = 0)
    (h : (n != m) = true) : a = 0 ∨ b = 0 := by
  cases n with
  | true => exact Or.inl (hn rfl)
  | false => exact Or.inr (hm (by simpa using h))

theorem HasUnits.mul {x y : Binary f} {a b : ℕ} (hx : x.HasUnits a) (hy : y.HasUnits b)
    (hlimit : roundQuotient f.precision (a * b) f.one < f.limit) :
    (x.mul y).HasUnits (roundQuotient f.precision (a * b) f.one) := by
  obtain ⟨n, rfl, hn⟩ := hx
  obtain ⟨m, rfl, hm⟩ := hy
  exact hasUnits_ofQuotient (fun h => Nat.mul_eq_zero.2 (mul_eq_zero_of_bne hn hm h)) hlimit

theorem HasUnits.div {x y : Binary f} {a b : ℕ} (hx : x.HasUnits a) (hy : y.HasUnits b)
    (hb : b ≠ 0) (hlimit : roundQuotient f.precision (a * f.one) b < f.limit) :
    (x.div y).HasUnits (roundQuotient f.precision (a * f.one) b) := by
  obtain ⟨n, rfl, hn⟩ := hx
  obtain ⟨m, rfl, hm⟩ := hy
  rw [Binary.div, if_neg hb]
  refine hasUnits_ofQuotient (fun h => ?_) hlimit
  rw [(mul_eq_zero_of_bne hn hm h).resolve_right hb, Nat.zero_mul]

theorem HasUnits.floor {x : Binary f} {a : ℕ} (hx : x.HasUnits a) :
    x.floor.HasUnits (a / f.one * f.one) := by
  obtain ⟨n, rfl, hn⟩ := hx
  cases n with
  | false => exact hasUnits_finite _
  | true =>
      refine ⟨true, ?_, fun _ => by rw [hn rfl, Nat.zero_div, Nat.zero_mul]⟩
      rw [Binary.floor, hn rfl, Nat.zero_mod, Nat.zero_div]
      rfl

/-- A value inside its bounds is kept as it is. -/
theorem HasUnits.clamp_eq {x high : Binary f} {a most : ℕ} (hx : x.HasUnits a)
    (hhigh : high.HasUnits most) (hle : a ≤ most) : x.clamp zero high = x := by
  have hbelow : ¬ x.lt zero = true := by
    rw [hx.lt_iff hasUnits_zero]
    exact Nat.not_lt_zero a
  have habove : ¬ high.lt x = true := by
    rw [hhigh.lt_iff hx]
    exact Nat.not_lt.2 hle
  rw [clamp, if_neg hbelow, if_neg habove]

theorem HasUnits.toNat_eq {x : Binary f} {n most : ℕ} (hx : x.HasUnits (n * f.one))
    (hle : n ≤ most) : x.toNat most = n := by
  obtain ⟨negative, rfl, hsign⟩ := hx
  cases negative with
  | false => rw [toNat, Nat.mul_div_cancel n f.one_pos, min_eq_left hle]
  | true => exact ((Nat.mul_eq_zero.1 (hsign rfl)).resolve_right f.one_pos.ne').symm

/-! ### Whole numbers -/

theorem nearestEven_mul (q : ℕ) {den : ℕ} (h : 0 < den) : nearestEven (q * den) den = q := by
  rw [nearestEven, Nat.mul_mod_left, Nat.mul_div_cancel q h]
  simp [h.ne]

/-- A number whose surplus bits are all zero is not changed by rounding. -/
theorem roundQuotient_of_dvd {precision num : ℕ} (h : 2 ^ surplusBits precision num ∣ num) :
    roundQuotient precision num 1 = num := by
  rw [roundQuotient, Nat.div_one, Nat.one_mul, Nat.pow_eq]
  generalize 2 ^ surplusBits precision num = step at h
  by_cases hstep : step = 0
  · rw [hstep] at h ⊢
    rw [Nat.mul_zero, Nat.eq_zero_of_zero_dvd h]
  · obtain ⟨q, rfl⟩ := exists_eq_mul_left_of_dvd h
    rw [nearestEven_mul q (Nat.pos_of_ne_zero hstep)]

theorem surplusBits_le {precision n : ℕ} (scale : ℕ) (hn : n ≠ 0) (h : n < 2 ^ precision) :
    surplusBits precision (n * 2 ^ scale) ≤ scale := by
  have hlog : (n * 2 ^ scale).log2 < precision + scale := by
    rw [Nat.log2_lt (by positivity), pow_add]
    exact Nat.mul_lt_mul_of_pos_right h (by positivity)
  rw [surplusBits]
  omega

/-- **A whole number with few bits needs no rounding.** -/
theorem roundQuotient_units {n : ℕ} (h : n < 2 ^ f.precision) :
    roundQuotient f.precision (n * f.one) 1 = n * f.one := by
  -- all bits that do not fit are zero
  refine roundQuotient_of_dvd ?_
  by_cases hn : n = 0
  · simp [hn]
  · exact Dvd.dvd.mul_left (pow_dvd_pow 2 (surplusBits_le f.scale hn h)) n

theorem Format.mul_one_lt_limit (f : Format) {n : ℕ} (h : n < 2 ^ f.range) :
    n * f.one < f.limit := by
  rw [Format.limit, Format.one, Nat.pow_eq, Nat.pow_eq, pow_add]
  exact Nat.mul_lt_mul_of_pos_right h (by positivity)

theorem ofNat_eq {n : ℕ} (hprecision : n < 2 ^ f.precision) (hrange : n < 2 ^ f.range) :
    (ofNat n : Binary f) = .finite false (n * f.one) := by
  rw [ofNat, ofQuotient, roundQuotient_units hprecision, if_pos (f.mul_one_lt_limit hrange)]

/-- A number of 32 bits needs no rounding to eight octets. -/
theorem ofNat_word {n : ℕ} (h : n < UInt32.size) :
    (ofNat n : Binary64) = .finite false (n * binary64.one) := by
  have hsize : UInt32.size ≤ 2 ^ binary64.precision := by decide
  have hrange : (2 : ℕ) ^ binary64.precision ≤ 2 ^ binary64.range :=
    Nat.pow_le_pow_right (by decide) (by decide)
  exact ofNat_eq (by omega) (by omega)

theorem hasUnits_ofNat {n : ℕ} (h : n < UInt32.size) :
    (ofNat n : Binary64).HasUnits (n * binary64.one) := by
  rw [ofNat_word h]
  exact hasUnits_finite _

theorem number?_hundred : (ofNat 100 : Binary64).number? = some 100 := by
  have hnumber := (hasUnits_ofNat (by decide : 100 < UInt32.size)).number?_eq
  rwa [Nat.cast_ofNat] at hnumber

/-- A value that is kept at or below a whole number is at most that number. -/
theorem toNat_clamp_le (x : Binary f) (n most : ℕ) :
    (x.clamp zero (.finite false (n * f.one))).toNat most ≤ n := by
  have htop : (finite false (n * f.one) : Binary f).toNat most ≤ n := by
    rw [toNat, Nat.mul_div_cancel n f.one_pos]
    exact min_le_left n most
  rw [clamp]
  split
  · simp [zero, toNat]
  · split
    · exact htop
    · next hbelow =>
        cases x with
        | nan => exact Nat.zero_le n
        | infinite negative =>
            cases negative with
            | true => exact Nat.zero_le n
            | false => exact absurd rfl hbelow
        | finite negative units =>
            cases negative with
            | true => exact Nat.zero_le n
            | false =>
                have hunits : units ≤ n * f.one := by
                  refine Nat.le_of_not_lt fun habove => hbelow (decide_eq_true ?_)
                  exact Int.ofNat_lt.2 habove
                calc min (units / f.one) most ≤ units / f.one := min_le_left _ _
                  _ ≤ n * f.one / f.one := Nat.div_le_div_right hunits
                  _ = n := Nat.mul_div_cancel n f.one_pos

end PageImages.Binary
