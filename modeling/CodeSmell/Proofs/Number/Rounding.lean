/-
Rounding to the nearest double.

What a rational number is rounded to is said here in terms of the doubles alone: a number
keeps its sign; from the half-way point above the largest finite double on it becomes an
infinity; and below that it becomes a finite double than which no other finite double is
nearer, and of two that are equally near the one whose significand is even.

Main statements: every number is rounded to exactly one double (`exists_isRounding`,
`IsRounding.unique`), which is the one at the nearest place of the grid
(`isRounding_ofParts`), so that is what ratios and decimals are rounded to.
-/
import CodeSmell.Proofs.Number.Ratio

set_option autoImplicit false

namespace CodeSmell.Binary64

/-! ## Values -/

/-- The value of a finite double. -/
def value (x : Binary64) : ℚ := x.signedUnits / 2 ^ 1074

/-- The least absolute value that is rounded to an infinity, half way between the largest
finite double and two to the 1024th. -/
def overflow : ℚ := 2 ^ 1024 - 2 ^ 970

/-- A number is rounded to a double. -/
structure IsRounding (q : ℚ) (x : Binary64) : Prop where
  negative : x.negative = decide (q < 0)
  infinite : overflow ≤ |q| → x.magnitude = infinityBits
  finite : |q| < overflow → x.magnitude < infinityBits
  nearest {y : Binary64} : |q| < overflow → y.magnitude < infinityBits →
    |q - x.value| ≤ |q - y.value|
  even {y : Binary64} : |q| < overflow → y.magnitude < infinityBits →
    y.value ≠ x.value → |q - x.value| = |q - y.value| → x.significand % 2 = 0

section

variable (negative : Bool) {m : ℕ}

theorem toNat_ofParts (h : m < signBit) :
    (ofParts negative m).bits.toNat = (if negative then signBit else 0) + m := by
  rw [ofParts, UInt64.toNat_ofNat', Nat.mod_eq_of_lt]
  unfold signBit at *
  split <;> omega

theorem ofParts_negative (h : m < signBit) : (ofParts negative m).negative = negative := by
  rw [Binary64.negative, toNat_ofParts negative h]
  cases negative
  · exact decide_eq_false (by simpa using h)
  · exact decide_eq_true (Nat.le_add_right _ _)

theorem ofParts_magnitude (h : m < signBit) : (ofParts negative m).magnitude = m := by
  rw [magnitude, toNat_ofParts negative h]
  cases negative
  · rw [if_neg Bool.false_ne_true, Nat.zero_add, Nat.mod_eq_of_lt h]
  · rw [if_pos rfl, Nat.add_mod_left, Nat.mod_eq_of_lt h]

end

/-- Places up to infinity leave the sign bit free. -/
theorem infinityBits_lt_signBit : infinityBits < signBit := by
  decide

/-- The place of a double is even if its significand is. -/
theorem magnitude_mod_two (x : Binary64) : x.magnitude % 2 = x.significand % 2 := by
  have h := x.magnitude_eq
  unfold binade at h
  omega

theorem value_eq (x : Binary64) :
    x.value = (if x.negative then -(gridPoint x.magnitude : ℚ) else gridPoint x.magnitude)
      / 2 ^ 1074 := by
  rw [value, signedUnits, units_eq_gridPoint]
  cases x.negative
  · rw [if_neg Bool.false_ne_true, if_neg Bool.false_ne_true, Int.cast_natCast]
  · rw [if_pos rfl, if_pos rfl, Int.cast_neg, Int.cast_natCast]

theorem abs_value (x : Binary64) : |x.value| = gridPoint x.magnitude / 2 ^ 1074 := by
  have hunit : (0 : ℚ) < 2 ^ 1074 := pow_pos two_pos _
  rw [value_eq, abs_div, abs_of_pos hunit]
  cases x.negative
  · rw [if_neg Bool.false_ne_true, Nat.abs_cast]
  · rw [if_pos rfl, abs_neg, Nat.abs_cast]

/-- Doubles of one absolute value and one sign are equal. -/
theorem eq_of_negative_eq {x y : Binary64} (hsign : x.negative = y.negative)
    (hvalue : x.value = y.value) : x = y := by
  have hunit : (2 : ℚ) ^ 1074 ≠ 0 := (pow_pos two_pos _).ne'
  have hgrid : (gridPoint x.magnitude : ℚ) = gridPoint y.magnitude := by
    have habs := congrArg (|·|) hvalue
    rw [abs_value, abs_value] at habs
    exact (div_left_inj' hunit).mp habs
  exact eq_of_parts_eq hsign (gridPoint_strictMono.injective (by exact_mod_cast hgrid))

/-! ## Distances -/

section

variable {q : ℚ} {x : Binary64}

/-- In the smallest unit, the distance of the absolute values is one on the grid. -/
theorem abs_sub_gridPoint (q : ℚ) (x : Binary64) :
    |(|q| * 2 ^ 1074 - gridPoint x.magnitude)| = |(|q| - |x.value|)| * 2 ^ 1074 := by
  have hunit : (0 : ℚ) < 2 ^ 1074 := pow_pos two_pos _
  have hscale : |q| * 2 ^ 1074 - gridPoint x.magnitude = (|q| - |x.value|) * 2 ^ 1074 := by
    rw [abs_value, sub_mul, div_mul_cancel₀ _ hunit.ne']
  rw [hscale, abs_mul, abs_of_pos hunit]

/-- On its own side of zero, a number is as far from a double as its absolute value is. -/
theorem abs_sub_value (h : x.negative = decide (q < 0)) :
    |q - x.value| = |(|q| - |x.value|)| := by
  have hunit : (0 : ℚ) < 2 ^ 1074 := pow_pos two_pos _
  have habs := x.abs_value
  have hvalue := x.value_eq
  by_cases hq : q < 0
  · rw [h, decide_eq_true hq, if_pos rfl, neg_div, ← habs] at hvalue
    have hflip : q - x.value = -(-q - |x.value|) := by linarith only [hvalue]
    rw [hflip, abs_neg, abs_of_neg hq]
  · rw [h, decide_eq_false hq, if_neg Bool.false_ne_true, ← habs] at hvalue
    rw [abs_of_nonneg (not_lt.mp hq), ← hvalue]

/-- Infinity is the nearest place from the half-way point on. -/
theorem infinityBits_le_iff_overflow {m : ℕ} (h : IsNearest (|q| * 2 ^ 1074) m) :
    infinityBits ≤ m ↔ overflow ≤ |q| := by
  have hunit : (0 : ℚ) < 2 ^ 1074 := pow_pos two_pos _
  have hscale : (2 : ℚ) ^ 2098 - 2 ^ 2044 = overflow * 2 ^ 1074 := by
    rw [overflow, sub_mul, ← pow_add, ← pow_add]
  rw [h.infinityBits_le_iff, hscale, mul_le_mul_iff_left₀ hunit]

end

/-! ## The double at the nearest place -/

section

variable {q : ℚ} {m : ℕ}

/-- The double at the nearest place is what the number is rounded to. -/
theorem isRounding_ofParts (h : IsNearest (|q| * 2 ^ 1074) m) :
    IsRounding q (ofParts (decide (q < 0)) (min m infinityBits)) := by
  have hunit : (0 : ℚ) < 2 ^ 1074 := pow_pos two_pos _
  have hplace : min m infinityBits < signBit :=
    (Nat.min_le_right _ _).trans_lt infinityBits_lt_signBit
  obtain ⟨x, hx⟩ : ∃ x, ofParts (decide (q < 0)) (min m infinityBits) = x := ⟨_, rfl⟩
  have hnegative : x.negative = decide (q < 0) := hx ▸ ofParts_negative _ hplace
  have hmagnitude : x.magnitude = min m infinityBits := hx ▸ ofParts_magnitude _ hplace
  have hoverflow := infinityBits_le_iff_overflow h
  have hfinite (hq : |q| < overflow) : m < infinityBits :=
    Nat.lt_of_not_le fun hle => (hoverflow.mp hle).not_gt hq
  -- Up to the unit, the distance to the double is the one to the nearest place.
  have hdistance (hq : |q| < overflow) :
      |q - x.value| * 2 ^ 1074 = |(|q| * 2 ^ 1074 - gridPoint m)| := by
    rw [abs_sub_value hnegative, ← abs_sub_gridPoint, hmagnitude, Nat.min_eq_left (hfinite hq).le]
  have hother (y : Binary64) :
      |(|q| * 2 ^ 1074 - gridPoint y.magnitude)| ≤ |q - y.value| * 2 ^ 1074 := by
    rw [abs_sub_gridPoint]
    exact mul_le_mul_of_nonneg_right (abs_abs_sub_abs_le q y.value) hunit.le
  rw [hx]
  constructor
  case negative => exact hnegative
  case infinite =>
    intro hq
    rw [hmagnitude, Nat.min_eq_right (hoverflow.mpr hq)]
  case finite =>
    intro hq
    rw [hmagnitude, Nat.min_eq_left (hfinite hq).le]
    exact hfinite hq
  case nearest =>
    intro y hq _
    rw [← mul_le_mul_iff_left₀ hunit, hdistance hq]
    exact (h.le y.magnitude).trans (hother y)
  case even =>
    intro y hq _ hne htie
    have hparity : m % 2 = x.significand % 2 := by
      rw [← magnitude_mod_two, hmagnitude, Nat.min_eq_left (hfinite hq).le]
    rw [← hparity]
    by_cases hsame : y.magnitude = m
    · -- The two doubles differ in the sign alone, so the number is zero, and so are they.
      have habs : |y.value| = |x.value| := by
        rw [abs_value, abs_value, hsame, hmagnitude, Nat.min_eq_left (hfinite hq).le]
      have hopposite : y.value = -x.value := (abs_eq_abs.mp habs).resolve_left hne
      rw [hopposite, sub_neg_eq_add] at htie
      have hzero : q = 0 ∨ x.value = 0 := by
        rcases abs_eq_abs.mp htie with hadd | hadd
        · exact .inr (by linarith)
        · exact .inl (by linarith)
      rcases hzero with rfl | hzero
      · have hnone : IsNearest (|(0 : ℚ)| * 2 ^ 1074) 0 := by
          apply IsNearest.zero_of_lt
          rw [abs_zero, zero_mul, mul_zero]
          exact one_pos
        rw [h.unique hnone]
      · exact absurd (hopposite.trans (by rw [hzero, neg_zero])) hne
    · refine h.even hsame (le_antisymm (h.le _) ?_)
      rw [← hdistance hq, htie]
      exact hother y

/-- The double that a number is rounded to is the one at the nearest place. -/
theorem IsRounding.eq_ofParts {x : Binary64} (hx : IsRounding q x)
    (hm : IsNearest (|q| * 2 ^ 1074) m) :
    x = ofParts (decide (q < 0)) (min m infinityBits) := by
  have hplace : min m infinityBits < signBit :=
    (Nat.min_le_right _ _).trans_lt infinityBits_lt_signBit
  obtain ⟨y, hy⟩ : ∃ y, ofParts (decide (q < 0)) (min m infinityBits) = y := ⟨_, rfl⟩
  have hrounding : IsRounding q y := hy ▸ isRounding_ofParts hm
  have hmagnitude : y.magnitude = min m infinityBits := hy ▸ ofParts_magnitude _ hplace
  rw [hy]
  refine eq_of_parts_eq (hx.negative.trans hrounding.negative.symm) ?_
  rcases le_or_gt overflow |q| with hq | hq
  · rw [hx.infinite hq, hrounding.infinite hq]
  have hxfinite := hx.finite hq
  have hyfinite := hrounding.finite hq
  have hym : y.magnitude = m := by omega
  -- Both are equally near.
  have htie : |q - x.value| = |q - y.value| :=
    le_antisymm (hx.nearest hq hyfinite) (hrounding.nearest hq hxfinite)
  have hgrid : |(|q| * 2 ^ 1074 - gridPoint x.magnitude)|
      = |(|q| * 2 ^ 1074 - gridPoint m)| := by
    rw [← hym, abs_sub_gridPoint, abs_sub_gridPoint, ← abs_sub_value hx.negative, htie,
      abs_sub_value hrounding.negative]
  by_contra hne
  -- So the place of the double is even, and a nearest one as well.
  have heven : x.magnitude % 2 = 0 := by
    rw [magnitude_mod_two]
    refine hx.even hq hyfinite (fun hvalue => hne ?_) htie
    rw [eq_of_negative_eq (hx.negative.trans hrounding.negative.symm) hvalue.symm]
  have hnearest : IsNearest (|q| * 2 ^ 1074) x.magnitude :=
    ⟨fun k => hgrid.le.trans (hm.le k), fun _ _ => heven⟩
  exact hne ((hnearest.unique hm).trans hym.symm)

end

/-- A number is rounded to one double only. -/
theorem IsRounding.unique {q : ℚ} {x y : Binary64} (hx : IsRounding q x) (hy : IsRounding q y) :
    x = y := by
  obtain ⟨m, hm⟩ := exists_isNearest (abs_nonneg q)
  rw [hx.eq_ofParts hm, hy.eq_ofParts hm]

/-- Every number is rounded to a double. -/
theorem exists_isRounding (q : ℚ) : ∃ x, IsRounding q x := by
  obtain ⟨m, hm⟩ := exists_isNearest (abs_nonneg q)
  exact ⟨_, isRounding_ofParts hm⟩

/-! ## Ratios and decimals -/

/-- A natural number is rounded, unless that gives an infinity. -/
theorem ofNat?_eq {n : ℕ} {x : Binary64} (hx : IsRounding n x) :
    ofNat? n = if (n : ℚ) < overflow then some x else none := by
  obtain ⟨m, hm⟩ := exists_isNearest (Nat.cast_nonneg (α := ℚ) n)
  have hratio : IsNearest ((n : ℚ) / (1 : ℕ) * 2 ^ 1074) m := by
    rwa [Nat.cast_one, div_one]
  have hpositive : decide ((n : ℚ) < 0) = false := decide_eq_false (Nat.cast_nonneg n).not_gt
  rw [← Nat.abs_cast n] at hm
  have hoverflow := infinityBits_le_iff_overflow hm
  rw [Nat.abs_cast] at hoverflow
  rw [ofNat?, ofRatio?_eq false one_pos hratio, hx.eq_ofParts hm, hpositive]
  by_cases hfinite : m < infinityBits
  · have hbelow : (n : ℚ) < overflow :=
      lt_of_not_ge fun hover => Nat.not_lt.mpr (hoverflow.mpr hover) hfinite
    rw [if_pos hfinite, if_pos hbelow, Nat.min_eq_left hfinite.le]
  · have hover : overflow ≤ n := hoverflow.mp (Nat.le_of_not_lt hfinite)
    rw [if_neg hfinite, if_neg (not_lt.mpr hover)]

/-- A decimal without a sign is rounded. -/
theorem isRounding_ofDecimal (digits : ℕ) (power : ℤ) :
    IsRounding ((digits : ℚ) * 10 ^ power) (ofDecimal false digits power) := by
  have hnonneg : (0 : ℚ) ≤ digits * 10 ^ power :=
    mul_nonneg (Nat.cast_nonneg digits) (zpow_nonneg (by norm_num) power)
  have hpositive : decide ((digits : ℚ) * 10 ^ power < 0) = false :=
    decide_eq_false hnonneg.not_gt
  obtain ⟨m, hm⟩ := exists_isNearest hnonneg
  rw [ofDecimal_eq false hm, ← hpositive]
  rw [← abs_of_nonneg hnonneg] at hm
  exact isRounding_ofParts hm

end CodeSmell.Binary64
