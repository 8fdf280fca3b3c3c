/-
Rounding a ratio of naturals.

The nearest place is found with naturals alone. The ratio is scaled by a power of two, so
that it becomes a significand with a fraction behind it; the fraction is rounded off, and
what is left is a place, even where rounding up has made the significand one too large.
The power is chosen by the logarithm of the ratio, but never finer than the smallest unit.

Main statement: the place that is found is the nearest one (`isNearest_nearestMagnitude`).
So the double that a ratio is rounded to depends on nothing but the value of the ratio
(`ofRatio?_eq`), and every number has a nearest place.
-/
import CodeSmell.Proofs.Number.Nearest

set_option autoImplicit false

namespace CodeSmell.Binary64

/-! ## Scaling -/

/-- Scaling multiplies the ratio by the power of two. -/
theorem scale_div (num den : ℕ) (power : ℤ) :
    ((scale num den power).1 : ℚ) / (scale num den power).2 = num / den * 2 ^ power := by
  unfold scale
  by_cases h : 0 ≤ power
  · obtain ⟨p, rfl⟩ := Int.eq_ofNat_of_zero_le h
    rw [if_pos h, Int.toNat_natCast, zpow_natCast]
    simp only [Nat.pow_eq]
    push_cast
    ring
  · obtain ⟨p, rfl⟩ : ∃ p : ℕ, power = -p := ⟨(-power).toNat, by omega⟩
    rw [if_neg h, neg_neg, Int.toNat_natCast, zpow_neg, zpow_natCast]
    simp only [Nat.pow_eq]
    push_cast
    rw [div_mul_eq_div_div, div_eq_mul_inv (_ / _)]

theorem scale_den_pos (num : ℕ) {den : ℕ} (hden : 0 < den) (power : ℤ) :
    0 < (scale num den power).2 := by
  unfold scale
  split
  · exact hden
  · exact Nat.mul_pos hden (Nat.two_pow_pos _)

theorem floorLog2_eq (num den : ℕ) :
    floorLog2 num den
      = if (scale num den (-((num.log2 : ℤ) - den.log2))).2
            ≤ (scale num den (-((num.log2 : ℤ) - den.log2))).1
        then (num.log2 : ℤ) - den.log2 else (num.log2 : ℤ) - den.log2 - 1 := rfl

section

variable {num den : ℕ} (hnum : 0 < num) (hden : 0 < den)

include hnum hden

/-- The logarithm of a ratio lies within one of the difference of the logarithms. -/
theorem ratio_bounds :
    (2 : ℚ) ^ ((num.log2 : ℤ) - den.log2 - 1) < num / den
      ∧ (num : ℚ) / den < 2 ^ ((num.log2 : ℤ) - den.log2 + 1) := by
  have hdenq : (0 : ℚ) < den := by exact_mod_cast hden
  have hnumLow : ((2 ^ num.log2 : ℕ) : ℚ) ≤ num := by
    exact_mod_cast Nat.log2_self_le hnum.ne'
  have hnumHigh : (num : ℚ) < ((2 ^ (num.log2 + 1) : ℕ) : ℚ) := by
    exact_mod_cast Nat.lt_log2_self
  have hdenLow : ((2 ^ den.log2 : ℕ) : ℚ) ≤ den := by
    exact_mod_cast Nat.log2_self_le hden.ne'
  have hdenHigh : (den : ℚ) < ((2 ^ (den.log2 + 1) : ℕ) : ℚ) := by
    exact_mod_cast Nat.lt_log2_self
  push_cast at hnumLow hnumHigh hdenLow hdenHigh
  constructor
  · rw [lt_div_iff₀ hdenq]
    calc (2 : ℚ) ^ ((num.log2 : ℤ) - den.log2 - 1) * den
        < 2 ^ ((num.log2 : ℤ) - den.log2 - 1) * 2 ^ (den.log2 + 1) := by gcongr
      _ = 2 ^ num.log2 := by
          rw [← zpow_natCast, ← zpow_natCast, ← zpow_add₀ two_ne_zero]
          congr 1
          push_cast
          ring
      _ ≤ num := hnumLow
  · rw [div_lt_iff₀ hdenq]
    calc (num : ℚ) < 2 ^ (num.log2 + 1) := hnumHigh
      _ = 2 ^ ((num.log2 : ℤ) - den.log2 + 1) * 2 ^ den.log2 := by
          rw [← zpow_natCast, ← zpow_natCast, ← zpow_add₀ two_ne_zero]
          congr 1
          push_cast
          ring
      _ ≤ 2 ^ ((num.log2 : ℤ) - den.log2 + 1) * den := by gcongr

/-- The power of two below the ratio, and the next one above it. -/
theorem floorLog2_bounds :
    (2 : ℚ) ^ floorLog2 num den ≤ num / den ∧ (num : ℚ) / den < 2 ^ (floorLog2 num den + 1) := by
  obtain ⟨hlow, hhigh⟩ := ratio_bounds hnum hden
  rw [floorLog2_eq]
  generalize (num.log2 : ℤ) - den.log2 = guess at hlow hhigh
  have hpos : (0 : ℚ) < 2 ^ guess := zpow_pos two_pos guess
  have hscaled := scale_div num den (-guess)
  have hscaledPos := scale_den_pos num hden (-guess)
  generalize scale num den (-guess) = scaled at hscaled hscaledPos
  -- The guess is right if the ratio, divided by its power, is one at least.
  have hguess : scaled.2 ≤ scaled.1 ↔ (2 : ℚ) ^ guess ≤ num / den := by
    have hq : (0 : ℚ) < scaled.2 := by exact_mod_cast hscaledPos
    rw [zpow_neg, ← div_eq_mul_inv] at hscaled
    rw [← one_le_div hpos, ← hscaled, one_le_div hq, Nat.cast_le]
  by_cases h : scaled.2 ≤ scaled.1
  · rw [if_pos h]
    exact ⟨hguess.mp h, hhigh⟩
  · rw [if_neg h, sub_add_cancel]
    exact ⟨hlow.le, lt_of_not_ge fun hle => h (hguess.mpr hle)⟩

end

/-! ## Rounding a quotient -/

theorem div_le_roundQuotient (n d : ℕ) : n / d ≤ roundQuotient n d := by
  simp only [roundQuotient]
  split
  · exact le_rfl
  · split <;> omega

theorem roundQuotient_le (n d : ℕ) : roundQuotient n d ≤ n / d + 1 := by
  simp only [roundQuotient]
  split
  · omega
  · split <;> omega

/-- The quotient is rounded to a natural that is no farther than a half, and that is even
where it is that far. -/
theorem roundQuotient_bounds (n : ℕ) {d : ℕ} (hd : 0 < d) :
    (2 * ((n : ℚ) / d) ≤ 2 * roundQuotient n d + 1
        ∧ (2 * ((n : ℚ) / d) = 2 * roundQuotient n d + 1 → roundQuotient n d % 2 = 0))
      ∧ (2 * (roundQuotient n d : ℚ) - 1 ≤ 2 * ((n : ℚ) / d)
        ∧ (2 * ((n : ℚ) / d) = 2 * roundQuotient n d - 1 → roundQuotient n d % 2 = 0)) := by
  have hdq : (0 : ℚ) < d := by exact_mod_cast hd
  have hrest : ((n % d : ℕ) : ℚ) < d := by exact_mod_cast Nat.mod_lt n hd
  have hrest0 : (0 : ℚ) ≤ (n % d : ℕ) := Nat.cast_nonneg _
  have hquotient : 2 * ((n : ℚ) / d) = 2 * (n / d : ℕ) + 2 * (n % d : ℕ) / d := by
    have hn : (n : ℚ) = d * (n / d : ℕ) + (n % d : ℕ) := by exact_mod_cast (Nat.div_add_mod n d).symm
    field_simp
    linarith
  rw [hquotient]
  -- Twice the remainder is compared with the divisor, and that is where the cases come from.
  simp only [roundQuotient]
  by_cases hless : 2 * (n % d) < d
  · have hfraction : 2 * ((n % d : ℕ) : ℚ) / d < 1 := by
      rw [div_lt_one hdq]
      exact_mod_cast hless
    have hfraction0 : 0 ≤ 2 * ((n % d : ℕ) : ℚ) / d := by positivity
    rw [if_pos hless]
    refine ⟨⟨by linarith, fun h => ?_⟩, by linarith, fun h => ?_⟩ <;> linarith
  · rw [if_neg hless]
    have hfraction : 2 * ((n % d : ℕ) : ℚ) / d < 2 := by
      rw [div_lt_iff₀ hdq]
      linarith
    by_cases hmore : d < 2 * (n % d)
    · have hfraction1 : 1 < 2 * ((n % d : ℕ) : ℚ) / d := by
        rw [one_lt_div hdq]
        exact_mod_cast hmore
      rw [if_pos hmore]
      push_cast
      refine ⟨⟨by linarith, fun h => ?_⟩, by linarith, fun h => ?_⟩ <;> linarith
    · have htie : 2 * ((n % d : ℕ) : ℚ) / d = 1 := by
        rw [div_eq_one_iff_eq hdq.ne']
        exact_mod_cast (show 2 * (n % d) = d by omega)
      have heven : (n / d + n / d % 2) % 2 = 0 := by omega
      have hup : ((n / d % 2 : ℕ) : ℚ) ≤ 1 := by exact_mod_cast (show n / d % 2 ≤ 1 by omega)
      have hup0 : (0 : ℚ) ≤ (n / d % 2 : ℕ) := Nat.cast_nonneg _
      rw [if_neg hmore, htie, Nat.cast_add]
      refine ⟨⟨by linarith, fun _ => heven⟩, by linarith, fun _ => heven⟩

/-! ## The nearest place -/

section

variable {k r : ℕ} (hle : r ≤ 2 * binade) (hge : 0 < k → binade ≤ r)

include hle hge

theorem gridPoint_cast : (gridPoint (k * binade + r) : ℚ) = r * 2 ^ k := by
  rw [gridPoint_add hle hge]
  push_cast
  rfl

/-- The next place is one unit above, unless the significand is one past the greatest. -/
theorem gridPoint_cast_succ :
    (gridPoint (k * binade + r + 1) : ℚ) = (r + 1) * 2 ^ k ∨ r = 2 * binade := by
  by_cases hlast : r = 2 * binade
  · exact .inr hlast
  · left
    rw [gridPoint_succ (by omega) hge, Nat.cast_add, gridPoint_cast hle hge]
    push_cast
    ring

/-- The place before is one unit below, unless the significand is the least one of a binade
that is not the first. -/
theorem gridPoint_cast_pred {j : ℕ} (hj : k * binade + r = j + 1) :
    (gridPoint j : ℚ) = (r - 1) * 2 ^ k ∨ 0 < k ∧ r = binade := by
  by_cases hfirst : 0 < k ∧ r = binade
  · exact .inr hfirst
  · left
    have hr1 : 1 ≤ r := by
      by_cases hk : 0 < k
      · have := hge hk
        unfold binade at this
        omega
      · obtain rfl : k = 0 := by omega
        omega
    obtain rfl : j = k * binade + (r - 1) := by omega
    rw [gridPoint_add (by omega) fun h => by have := hge h; omega]
    push_cast [hr1]
    rfl

/-- A number is rounded to the place with some doublings and a significand if, with its unit
doubled as often, it lies within the binade, and is no farther than a half from the
significand, which is even where it is that far. -/
theorem isNearest_of_significand {v : ℚ} (hlow : 0 < k → (binade : ℚ) ≤ v)
    (hhigh : v < 2 * binade) (hup : 2 * v ≤ 2 * r + 1) (hupEven : 2 * v = 2 * r + 1 → r % 2 = 0)
    (hdown : 2 * (r : ℚ) - 1 ≤ 2 * v) (hdownEven : 2 * v = 2 * r - 1 → r % 2 = 0) :
    IsNearest (v * 2 ^ k) (k * binade + r) := by
  have hunit : (0 : ℚ) < 2 ^ k := pow_pos two_pos k
  have hplace := gridPoint_cast hle hge
  have hparity : r % 2 = 0 → (k * binade + r) % 2 = 0 := by
    have heven : binade % 2 = 0 := by decide
    intro h
    rw [Nat.add_mod, Nat.mul_mod, heven, h]
    rfl
  -- Where a neighbour is not one unit away, the number lies on the other side of the place.
  have habove : (gridPoint (k * binade + r + 1) : ℚ) = (r + 1) * 2 ^ k
      ∨ v * 2 ^ k < gridPoint (k * binade + r) := by
    rcases gridPoint_cast_succ hle hge with h | hlast
    · exact .inl h
    · right
      rw [hplace, hlast]
      push_cast
      exact mul_lt_mul_of_pos_right hhigh hunit
  have hbelow {j : ℕ} (hj : k * binade + r = j + 1) : (gridPoint j : ℚ) = (r - 1) * 2 ^ k
      ∨ (gridPoint (k * binade + r) : ℚ) ≤ v * 2 ^ k := by
    rcases gridPoint_cast_pred hle hge hj with h | hfirst
    · exact .inl h
    · right
      rw [hplace, hfirst.2]
      exact mul_le_mul_of_nonneg_right (hlow hfirst.1) hunit.le
  have hscale {a b : ℚ} (h : a ≤ b) : a * 2 ^ k ≤ b * 2 ^ k := mul_le_mul_of_nonneg_right h hunit.le
  apply IsNearest.of_midpoints
  · rcases habove with h | h
    · have := hscale hup
      rw [hplace, h]
      linarith
    · have := gridPoint_cast_lt (Nat.lt_succ_self (k * binade + r))
      linarith
  · intro htie
    rcases habove with h | h
    · rw [hplace, h] at htie
      refine hparity (hupEven (mul_right_cancel₀ hunit.ne' ?_))
      linarith
    · have := gridPoint_cast_lt (Nat.lt_succ_self (k * binade + r))
      linarith
  · intro j hj
    rcases hbelow hj with h | h
    · have := hscale hdown
      rw [hplace, h]
      linarith
    · have := gridPoint_cast_lt (show j < k * binade + r by omega)
      linarith
  · intro j hj htie
    rcases hbelow hj with h | h
    · rw [hplace, h] at htie
      refine hparity (hdownEven (mul_right_cancel₀ hunit.ne' ?_))
      linarith
    · have := gridPoint_cast_lt (show j < k * binade + r by omega)
      linarith

end

/-- A number that is a quotient of naturals, with its unit doubled some times, is rounded
to the place with these doublings and the rounded quotient as significand, provided that the
quotient is one of a significand with these doublings. -/
theorem isNearest_roundQuotient {k n d : ℕ} (hd : 0 < d) (hlow : 0 < k → binade * d ≤ n)
    (hhigh : n < 2 * binade * d) :
    IsNearest ((n : ℚ) / d * 2 ^ k) (k * binade + roundQuotient n d) := by
  have hdq : (0 : ℚ) < d := by exact_mod_cast hd
  obtain ⟨⟨hup, hupEven⟩, hdown, hdownEven⟩ := roundQuotient_bounds n hd
  refine isNearest_of_significand ?_ ?_ ?_ ?_ hup hupEven hdown hdownEven
  · have hdiv : n / d < 2 * binade := (Nat.div_lt_iff_lt_mul hd).mpr hhigh
    exact (roundQuotient_le n d).trans hdiv
  · intro hk
    exact ((Nat.le_div_iff_mul_le hd).mpr (hlow hk)).trans (div_le_roundQuotient n d)
  · intro hk
    rw [le_div_iff₀ hdq]
    exact_mod_cast hlow hk
  · rw [div_lt_iff₀ hdq]
    exact_mod_cast hhigh

/-- The place that is found for a ratio is the nearest one. -/
theorem isNearest_nearestMagnitude {num den : ℕ} (hnum : 0 < num) (hden : 0 < den) :
    IsNearest ((num : ℚ) / den * 2 ^ 1074) (nearestMagnitude num den) := by
  obtain ⟨hlow, hhigh⟩ := floorLog2_bounds hnum hden
  unfold nearestMagnitude
  obtain ⟨unit, hunit⟩ : ∃ unit, max (floorLog2 num den - 52) (-1074) = unit := ⟨_, rfl⟩
  have hscaled := scale_div num den (-unit)
  have hd := scale_den_pos num hden (-unit)
  simp only [hunit]
  generalize scale num den (-unit) = scaled at hscaled hd
  obtain ⟨n, d⟩ := scaled
  dsimp only at hscaled hd ⊢
  have hdq : (0 : ℚ) < d := by exact_mod_cast hd
  have hpow : (0 : ℚ) < 2 ^ (-unit) := zpow_pos two_pos _
  have hbinade : (binade : ℚ) = 2 ^ (52 : ℤ) := by
    rw [show binade = 2 ^ 52 by decide]
    norm_num
  obtain ⟨k, hk⟩ : ∃ k : ℕ, unit = k - 1074 := ⟨(unit + 1074).toNat, by omega⟩
  have hvalue : (num : ℚ) / den * 2 ^ 1074 = n / d * 2 ^ k := by
    rw [hscaled, hk, mul_assoc, ← zpow_natCast, ← zpow_natCast, ← zpow_add₀ two_ne_zero]
    congr 2
    push_cast
    ring
  have hdoublings : (unit + 1074).toNat = k := by omega
  rw [hvalue, hdoublings]
  apply isNearest_roundQuotient hd
  · intro hpos
    have hexact : floorLog2 num den = 52 + unit := by omega
    have hle : (binade : ℚ) ≤ n / d := by
      rw [hscaled, hbinade]
      calc (2 : ℚ) ^ (52 : ℤ) = 2 ^ floorLog2 num den * 2 ^ (-unit) := by
            rw [← zpow_add₀ two_ne_zero, hexact, add_neg_cancel_right]
        _ ≤ num / den * 2 ^ (-unit) := mul_le_mul_of_nonneg_right hlow hpow.le
    rw [le_div_iff₀ hdq] at hle
    exact_mod_cast hle
  · have hlt : (n : ℚ) / d < 2 * binade := by
      rw [hscaled, hbinade]
      calc (num : ℚ) / den * 2 ^ (-unit)
          < 2 ^ (floorLog2 num den + 1) * 2 ^ (-unit) := mul_lt_mul_of_pos_right hhigh hpow
        _ = 2 ^ (floorLog2 num den + 1 - unit) := by rw [← zpow_add₀ two_ne_zero, sub_eq_add_neg]
        _ ≤ 2 ^ (53 : ℤ) := zpow_le_zpow_right₀ one_le_two (by omega)
        _ = 2 * 2 ^ (52 : ℤ) := by norm_num
    rw [div_lt_iff₀ hdq] at hlt
    exact_mod_cast hlt

/-- Every number from zero on has a nearest place. -/
theorem exists_isNearest {q : ℚ} (hq : 0 ≤ q) : ∃ m, IsNearest (q * 2 ^ 1074) m := by
  rcases hq.eq_or_lt with rfl | hpos
  · refine ⟨0, .zero_of_lt ?_⟩
    rw [zero_mul, mul_zero]
    exact one_pos
  · obtain ⟨num, hnum⟩ := Int.eq_ofNat_of_zero_le (Rat.num_nonneg.mpr hq)
    have hratio : (num : ℚ) / q.den = q := by
      rw [← Int.cast_natCast, ← hnum, Rat.num_div_den]
    have hnumPos : 0 < num := by
      have := Rat.num_pos.mpr hpos
      omega
    refine ⟨nearestMagnitude num q.den, ?_⟩
    have hnear := isNearest_nearestMagnitude hnumPos q.den_pos
    rwa [hratio] at hnear

/-! ## Doubles of ratios -/

section

variable (negative : Bool) {num den m : ℕ}

/-- A ratio is rounded to the double at the nearest place, if that is a finite one. -/
theorem ofRatio?_eq (hden : 0 < den) (h : IsNearest ((num : ℚ) / den * 2 ^ 1074) m) :
    ofRatio? negative num den = if m < infinityBits then some (ofParts negative m) else none := by
  unfold ofRatio?
  by_cases hzero : num = 0
  · have hm : m = 0 := by
      refine h.unique (.zero_of_lt ?_)
      rw [hzero, Nat.cast_zero, zero_div, zero_mul, mul_zero]
      exact one_pos
    have hfinite : m < infinityBits := hm ▸ by decide
    rw [if_pos hzero, if_pos hfinite, hm, zero]
  · rw [if_neg hzero, h.unique (isNearest_nearestMagnitude (Nat.pos_of_ne_zero hzero) hden)]

/-- A ratio is rounded to the double at the nearest place, and past infinity to infinity. -/
theorem ofRatio_eq (hden : 0 < den) (h : IsNearest ((num : ℚ) / den * 2 ^ 1074) m) :
    ofRatio negative num den = ofParts negative (min m infinityBits) := by
  rw [ofRatio, ofRatio?_eq negative hden h]
  by_cases hfinite : m < infinityBits
  · rw [if_pos hfinite, Nat.min_eq_left hfinite.le, Option.getD_some]
  · rw [if_neg hfinite, Nat.min_eq_right (Nat.le_of_not_lt hfinite), Option.getD_none, infinity]

end

/-! ## Doubles of decimals -/

/-- A power of ten is above the power of eight. -/
theorem two_zpow_le_ten_zpow {e : ℤ} (h : 0 ≤ e) : (2 : ℚ) ^ (3 * e) ≤ 10 ^ e := by
  rw [zpow_mul]
  exact zpow_le_zpow_left₀ h (by norm_num) (by norm_num)

/-- Digits before so high a power of ten are past infinity. -/
theorem infinityBits_le_of_power {digits m : ℕ} {power : ℤ} (hdigits : digits ≠ 0)
    (hpower : 400 < power) (h : IsNearest ((digits : ℚ) * 10 ^ power * 2 ^ 1074) m) :
    infinityBits ≤ m := by
  rw [h.infinityBits_le_iff]
  have hone : (1 : ℚ) ≤ digits := by exact_mod_cast Nat.one_le_iff_ne_zero.mpr hdigits
  have hten : (2 : ℚ) ^ (1024 : ℤ) ≤ digits * 10 ^ power := by
    calc (2 : ℚ) ^ (1024 : ℤ) ≤ 2 ^ (3 * power) := zpow_le_zpow_right₀ one_le_two (by omega)
      _ ≤ 10 ^ power := two_zpow_le_ten_zpow (by omega)
      _ ≤ digits * 10 ^ power := le_mul_of_one_le_left (zpow_pos (by norm_num) power).le hone
  calc (2 : ℚ) ^ 2098 - 2 ^ 2044 ≤ 2 ^ 2098 := sub_le_self _ (pow_pos two_pos _).le
    _ = 2 ^ (1024 : ℤ) * 2 ^ 1074 := by
        rw [← zpow_natCast, ← zpow_natCast, ← zpow_add₀ two_ne_zero]
        rfl
    _ ≤ digits * 10 ^ power * 2 ^ 1074 :=
        mul_le_mul_of_nonneg_right hten (pow_pos two_pos _).le

/-- Digits before so low a power of ten are nearest to zero. -/
theorem isNearest_zero_of_power {digits : ℕ} {power : ℤ}
    (hpower : power + digits.log2 + 1 < -400) :
    IsNearest ((digits : ℚ) * 10 ^ power * 2 ^ 1074) 0 := by
  apply IsNearest.zero_of_lt
  have hten : (0 : ℚ) < 10 ^ power := zpow_pos (by norm_num) power
  have hdigits : (digits : ℚ) ≤ 10 ^ ((digits.log2 : ℤ) + 1) := by
    have hlog : (digits : ℚ) ≤ ((2 ^ (digits.log2 + 1) : ℕ) : ℚ) := by
      exact_mod_cast Nat.lt_log2_self.le
    refine hlog.trans ?_
    rw [← Nat.cast_succ, zpow_natCast, Nat.cast_pow]
    exact pow_le_pow_left₀ (by norm_num) (by norm_num) _
  have hsmall : (digits : ℚ) * 10 ^ power ≤ 2 ^ (-1200 : ℤ) := by
    calc (digits : ℚ) * 10 ^ power
        ≤ 10 ^ ((digits.log2 : ℤ) + 1) * 10 ^ power := mul_le_mul_of_nonneg_right hdigits hten.le
      _ = 10 ^ ((digits.log2 : ℤ) + 1 + power) := by rw [← zpow_add₀ (by norm_num)]
      _ ≤ 10 ^ (-400 : ℤ) := zpow_le_zpow_right₀ (by norm_num) (by omega)
      _ ≤ 2 ^ (-1200 : ℤ) := by
          rw [zpow_neg, zpow_neg]
          exact inv_anti₀ (zpow_pos two_pos _) (two_zpow_le_ten_zpow (by norm_num))
  calc 2 * ((digits : ℚ) * 10 ^ power * 2 ^ 1074)
      ≤ 2 ^ (1 : ℤ) * (2 ^ (-1200 : ℤ) * 2 ^ (1074 : ℤ)) := by
        rw [zpow_one, zpow_ofNat 2 1074]
        have hunit : (0 : ℚ) ≤ 2 ^ 1074 := (pow_pos two_pos _).le
        exact mul_le_mul_of_nonneg_left (mul_le_mul_of_nonneg_right hsmall hunit) two_pos.le
    _ = 2 ^ (-125 : ℤ) := by
        rw [← zpow_add₀ two_ne_zero, ← zpow_add₀ two_ne_zero]
        rfl
    _ < 1 := zpow_lt_one_of_neg₀ one_lt_two (by norm_num)

/-- A decimal is rounded to the double at the nearest place, also where that is told from
the power of ten alone. -/
theorem ofDecimal_eq (negative : Bool) {digits m : ℕ} {power : ℤ}
    (h : IsNearest ((digits : ℚ) * 10 ^ power * 2 ^ 1074) m) :
    ofDecimal negative digits power = ofParts negative (min m infinityBits) := by
  unfold ofDecimal
  by_cases hdigits : digits = 0
  · have hm : m = 0 := by
      refine h.unique (.zero_of_lt ?_)
      rw [hdigits, Nat.cast_zero, zero_mul, zero_mul, mul_zero]
      exact one_pos
    rw [if_pos hdigits, hm, Nat.zero_min, zero]
  rw [if_neg hdigits]
  by_cases hlarge : 400 < power
  · rw [if_pos hlarge, Nat.min_eq_right (infinityBits_le_of_power hdigits hlarge h), infinity]
  rw [if_neg hlarge]
  by_cases hsmall : power + digits.log2 + 1 < -400
  · rw [if_pos hsmall, h.unique (isNearest_zero_of_power hsmall), Nat.zero_min, zero]
  rw [if_neg hsmall]
  by_cases hwhole : 0 ≤ power
  · obtain ⟨p, rfl⟩ := Int.eq_ofNat_of_zero_le hwhole
    rw [if_pos hwhole, Int.toNat_natCast]
    apply ofRatio_eq negative one_pos
    rw [zpow_natCast] at h
    simpa only [Nat.pow_eq, Nat.cast_mul, Nat.cast_pow, Nat.cast_ofNat, Nat.cast_one, div_one]
      using h
  · obtain ⟨p, rfl⟩ : ∃ p : ℕ, power = -p := ⟨(-power).toNat, by omega⟩
    rw [if_neg hwhole, neg_neg, Int.toNat_natCast]
    apply ofRatio_eq negative (Nat.pow_pos (by decide))
    rw [zpow_neg, zpow_natCast, ← div_eq_mul_inv] at h
    simpa only [Nat.pow_eq, Nat.cast_pow, Nat.cast_ofNat] using h

end CodeSmell.Binary64
