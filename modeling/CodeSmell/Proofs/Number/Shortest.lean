/-
The shortest decimal reads back.

The ends of the interval that the search works with are the half-way points to the places
next to the double, and they belong to it exactly if the place is even. So every number in
the interval is rounded to the double (`isNearest_of_contains`), and it is enough that the
search ends with a point of a grid that lies in the interval.

It does because the finest grid that is asked has a step below the width of the interval: of
the two points around the double one is then inside. The step is ten to the sixteenth times
less than a power of ten that is at most the double, and the interval is wider than the
double divided by ten to the sixteenth, since significands have 53 bits.
-/
import CodeSmell.Number.Shortest
import CodeSmell.Proofs.Number.Ratio

set_option autoImplicit false

namespace CodeSmell

open Binary64

/-! ## Places of the decimal point -/

namespace Decimal

theorem width_of_ne_zero {n : ℕ} (h : n ≠ 0) : width n = width (n / 10) + 1 := by
  rw [width, dif_neg h]

/-- A number is below ten to the number of its digits. -/
theorem lt_ten_pow_width (n : ℕ) : n < 10 ^ width n := by
  induction n using Nat.strong_induction_on with
  | _ n ih =>
    by_cases h : n = 0
    · subst h
      exact Nat.pow_pos (by decide)
    · have hrest := ih (n / 10) (by omega)
      rw [width_of_ne_zero h, Nat.pow_succ]
      omega

/-- A number other than zero is not below ten to one less than the number of its digits. -/
theorem ten_pow_width_le {n : ℕ} (h : n ≠ 0) : 10 ^ width n ≤ 10 * n := by
  induction n using Nat.strong_induction_on with
  | _ n ih =>
    rw [width_of_ne_zero h, Nat.pow_succ]
    by_cases hsmall : n / 10 = 0
    · rw [hsmall, width, dif_pos rfl]
      omega
    · have hrest := ih (n / 10) (by omega) hsmall
      omega

/-- Dropping zeros at the end changes no value. -/
theorem strip_value (n : ℕ) (power : ℤ) :
    ((strip n power).digits : ℚ) * 10 ^ (strip n power).power = n * 10 ^ power := by
  induction n using Nat.strong_induction_on generalizing power with
  | _ n ih =>
    rw [strip]
    by_cases h : n ≠ 0 ∧ n % 10 = 0
    · have hn : (n : ℚ) = (n / 10 : ℕ) * 10 := by
        exact_mod_cast (Nat.div_mul_cancel (Nat.dvd_of_mod_eq_zero h.2)).symm
      rw [dif_pos h, ih (n / 10) (by omega), zpow_add_one₀ (by norm_num), hn]
      ring
    · rw [dif_neg h]

theorem strip_digits_ne_zero {n : ℕ} (h : n ≠ 0) (power : ℤ) : (strip n power).digits ≠ 0 := by
  intro hzero
  have hvalue := strip_value n power
  rw [hzero, Nat.cast_zero, zero_mul] at hvalue
  have hpower : (10 : ℚ) ^ power ≠ 0 := zpow_ne_zero power (by norm_num)
  exact h (by exact_mod_cast (mul_eq_zero.mp hvalue.symm).resolve_right hpower)

end Decimal

namespace Shortest

/-- Ten to one less than the place of the point of a ratio is at most the ratio. -/
theorem ten_zpow_pointOf_le {num den : ℕ} (hnum : 0 < num) (hden : 0 < den) :
    (10 : ℚ) ^ (pointOf num den - 1) ≤ num / den := by
  have hdenq : (0 : ℚ) < den := by exact_mod_cast hden
  have hten : (10 : ℚ) ≠ 0 := by norm_num
  rw [le_div_iff₀ hdenq]
  unfold pointOf
  by_cases hle : den ≤ num
  · have hquotient : num / den ≠ 0 := (Nat.div_pos hle hden).ne'
    have hwidth := Decimal.ten_pow_width_le hquotient
    have hbound : 10 ^ Decimal.width (num / den) * den ≤ 10 * num := by
      calc 10 ^ Decimal.width (num / den) * den ≤ 10 * (num / den) * den :=
            Nat.mul_le_mul_right den hwidth
        _ = 10 * (num / den * den) := Nat.mul_assoc _ _ _
        _ ≤ 10 * num := Nat.mul_le_mul_left 10 (Nat.div_mul_le_self num den)
    have hboundq : (10 : ℚ) ^ Decimal.width (num / den) * den ≤ 10 * num := by
      exact_mod_cast hbound
    rw [if_pos hle, zpow_sub_one₀ hten, zpow_natCast]
    linarith
  · obtain ⟨w, hw⟩ : ∃ w, Decimal.width ((den + num - 1) / num - 1) = w := ⟨_, rfl⟩
    have hexponent : (1 : ℤ) - w - 1 = -w := by ring
    have hbound : den ≤ num * 10 ^ w := by
      have hwidth := Decimal.lt_ten_pow_width ((den + num - 1) / num - 1)
      have hceil : den ≤ num * ((den + num - 1) / num) := by
        have := Nat.div_add_mod (den + num - 1) num
        have := Nat.mod_lt (den + num - 1) hnum
        omega
      rw [hw] at hwidth
      exact hceil.trans (Nat.mul_le_mul_left num (by omega))
    have hboundq : (den : ℚ) ≤ num * 10 ^ w := by exact_mod_cast hbound
    have hpower : (0 : ℚ) < 10 ^ w := pow_pos (by norm_num) w
    rw [if_neg hle, hw, hexponent, zpow_neg, zpow_natCast, inv_mul_le_iff₀ hpower]
    linarith

/-! ## The interval of a double -/

/-- A power with an integer exponent is a ratio of naturals. -/
theorem div_eq_zpow (b : ℕ) (p : ℤ) :
    ((if 0 ≤ p then Nat.pow b p.toNat else 1 : ℕ) : ℚ)
      / (if 0 ≤ p then 1 else Nat.pow b (-p).toNat : ℕ) = (b : ℚ) ^ p := by
  by_cases h : 0 ≤ p
  · obtain ⟨k, rfl⟩ := Int.eq_ofNat_of_zero_le h
    rw [if_pos h, if_pos h, Nat.cast_one, div_one, Int.toNat_natCast, zpow_natCast]
    exact Nat.cast_pow b k
  · obtain ⟨k, rfl⟩ : ∃ k : ℕ, p = -k := ⟨(-p).toNat, by omega⟩
    rw [if_neg h, if_neg h, Nat.cast_one, one_div, neg_neg, Int.toNat_natCast, zpow_neg,
      zpow_natCast]
    exact congrArg _ (Nat.cast_pow b k)

/-- How far the interval reaches down, in quarters of the unit. -/
def quartersBelow (x : Binary64) : ℕ :=
  if x.significand = binade ∧ -1074 < x.unitExponent then 1 else 2

theorem quartersBelow_pos (x : Binary64) : 0 < quartersBelow x := by
  unfold quartersBelow
  split <;> decide

theorem quartersBelow_le (x : Binary64) : quartersBelow x ≤ 2 := by
  unfold quartersBelow
  split <;> decide

theorem significand_pos {x : Binary64} (hx : 0 < x.magnitude) : 0 < x.significand := by
  have hplace := x.magnitude_eq
  have hfull : 0 < x.doublings → binade ≤ x.significand := binade_le_significand
  by_contra hnone
  have hdoublings : x.doublings = 0 := by
    by_contra hdoublings
    have := hfull (Nat.pos_of_ne_zero hdoublings)
    unfold binade at this
    omega
  rw [hdoublings] at hplace
  omega

/-- The interval in quarters of the unit, each of which is a ratio. -/
theorem exists_interval_eq (x : Binary64) :
    ∃ up den : ℕ, 0 < up ∧ 0 < den ∧ 4 * ((up : ℚ) / den * 2 ^ 1074) = 2 ^ x.doublings
      ∧ interval x
        = { low := (4 * x.significand - quartersBelow x) * up
            value := 4 * x.significand * up
            high := (4 * x.significand + 2) * up
            den := den
            closed := x.significand % 2 == 0 } := by
  refine ⟨_, _, ?_, ?_, ?_, rfl⟩
  · split
    · exact Nat.two_pow_pos _
    · exact one_pos
  · split
    · exact one_pos
    · exact Nat.two_pow_pos _
  · rw [div_eq_zpow 2, x.unitExponent_eq, ← zpow_natCast (2 : ℚ) x.doublings]
    have hfour : (4 : ℚ) = 2 ^ (2 : ℤ) := by norm_num
    rw [hfour, Nat.cast_ofNat, ← zpow_ofNat (2 : ℚ) 1074, ← zpow_add₀ two_ne_zero,
      ← zpow_add₀ two_ne_zero]
    congr 1
    ring

section

variable {x : Binary64}

theorem gridPoint_magnitude (x : Binary64) :
    gridPoint x.magnitude = x.significand * 2 ^ x.doublings := by
  rw [← units_eq_gridPoint, units]

theorem gridPoint_magnitude_succ (x : Binary64) :
    gridPoint (x.magnitude + 1) = gridPoint x.magnitude + 2 ^ x.doublings := by
  rw [x.magnitude_eq]
  exact gridPoint_succ x.significand_lt binade_le_significand

/-- The place before a double is as far from it as twice the interval reaches down. -/
theorem gridPoint_magnitude_pred {j : ℕ} (h : x.magnitude = j + 1) :
    2 * gridPoint x.magnitude = 2 * gridPoint j + quartersBelow x * 2 ^ x.doublings := by
  have hplace := x.magnitude_eq
  have hsmall := x.significand_lt
  have hexponent := x.unitExponent_eq
  unfold quartersBelow
  by_cases hbelow : x.significand = binade ∧ -1074 < x.unitExponent
  · -- The place before a power of two is the last one of the binade below.
    obtain ⟨k, hk⟩ : ∃ k, x.doublings = k + 1 := ⟨x.doublings - 1, by omega⟩
    have hj : j = k * binade + (2 * binade - 1) := by
      rw [hk, hbelow.1] at hplace
      unfold binade at *
      omega
    have hstep : gridPoint (j + 1) = gridPoint j + 2 ^ k := by
      rw [hj]
      exact gridPoint_succ (by decide) fun _ => by decide
    rw [if_pos hbelow, h, hstep, hk]
    ring
  · have hfull : 0 < x.doublings → binade ≤ x.significand := binade_le_significand
    have hj : j = x.doublings * binade + (x.significand - 1) := by
      unfold binade at *
      omega
    have hstep : gridPoint (j + 1) = gridPoint j + 2 ^ x.doublings := by
      rw [hj]
      refine gridPoint_succ (by omega) fun hpos => ?_
      have := hfull hpos
      omega
    rw [if_neg hbelow, h, hstep]
    ring

section

variable {quarter : ℚ} (hquarter : 4 * quarter = 2 ^ x.doublings)

include hquarter

theorem gridPoint_magnitude_eq_quarters :
    (gridPoint x.magnitude : ℚ) = x.significand * (4 * quarter) := by
  rw [hquarter]
  exact_mod_cast gridPoint_magnitude x

/-- The upper end is the half-way point to the next place. -/
theorem two_mul_upper_end :
    2 * ((4 * x.significand + 2 : ℕ) * quarter)
      = (gridPoint x.magnitude + gridPoint (x.magnitude + 1) : ℚ) := by
  have hnext : (gridPoint (x.magnitude + 1) : ℚ) = gridPoint x.magnitude + 4 * quarter := by
    rw [hquarter]
    exact_mod_cast gridPoint_magnitude_succ x
  rw [hnext, gridPoint_magnitude_eq_quarters hquarter]
  push_cast
  ring

/-- The lower end is the half-way point to the place before. -/
theorem two_mul_lower_end {j : ℕ} (hj : x.magnitude = j + 1) :
    2 * ((4 * x.significand - quartersBelow x : ℕ) * quarter)
      = (gridPoint j + gridPoint x.magnitude : ℚ) := by
  have hworth := gridPoint_magnitude_eq_quarters hquarter
  have hbefore : (2 * gridPoint x.magnitude : ℚ)
      = 2 * gridPoint j + quartersBelow x * (4 * quarter) := by
    rw [hquarter]
    exact_mod_cast gridPoint_magnitude_pred hj
  have hle : quartersBelow x ≤ 4 * x.significand := by
    have hpos : 0 < x.significand := significand_pos (hj ▸ j.succ_pos)
    have := quartersBelow_le x
    omega
  rw [Nat.cast_sub hle]
  push_cast
  linarith

end

/-- What lies in the interval is between its ends, and on one of them only if they belong to
the interval. -/
theorem bounds_of_contains {i : Interval} {k stepNum stepDen : ℕ}
    (h : i.contains k stepNum stepDen = true) :
    i.low * stepDen ≤ k * stepNum * i.den
      ∧ k * stepNum * i.den ≤ i.high * stepDen
      ∧ (i.low * stepDen = k * stepNum * i.den ∨ k * stepNum * i.den = i.high * stepDen →
          i.closed = true) := by
  unfold Interval.contains at h
  by_cases hclosed : i.closed = true
  · simp only [hclosed, if_true, Bool.and_eq_true, decide_eq_true_eq] at h
    exact ⟨h.1, h.2, fun _ => hclosed⟩
  · simp only [hclosed, if_false, Bool.and_eq_true, decide_eq_true_eq, Bool.false_eq_true] at h
    exact ⟨h.1.le, h.2.le, by omega⟩

theorem contains_of_lt {i : Interval} {k stepNum stepDen : ℕ}
    (hlow : i.low * stepDen < k * stepNum * i.den)
    (hhigh : k * stepNum * i.den < i.high * stepDen) : i.contains k stepNum stepDen = true := by
  unfold Interval.contains
  cases i.closed <;> simp [hlow, hhigh, hlow.le, hhigh.le]

/-- Ratios are compared as products. -/
theorem ratio_le_iff {a b c d : ℕ} {unit : ℚ} (hunit : 0 < unit) (hb : 0 < b) (hd : 0 < d) :
    (a : ℚ) / b * unit ≤ c / d * unit ↔ a * d ≤ c * b := by
  have hbq : (0 : ℚ) < b := by exact_mod_cast hb
  have hdq : (0 : ℚ) < d := by exact_mod_cast hd
  rw [mul_le_mul_iff_left₀ hunit, div_le_div_iff₀ hbq hdq]
  exact_mod_cast Iff.rfl

/-- **The interval of a double is rounded to it.** -/
theorem isNearest_of_contains {k stepNum stepDen : ℕ} (hstep : 0 < stepDen)
    (h : (interval x).contains k stepNum stepDen = true) :
    IsNearest ((k * stepNum : ℕ) / stepDen * 2 ^ 1074) x.magnitude := by
  obtain ⟨up, den, hup, hden, hquarter, hinterval⟩ := exists_interval_eq x
  obtain ⟨hlow, hhigh, hclosed⟩ := bounds_of_contains h
  rw [hinterval] at hlow hhigh hclosed
  dsimp only at hlow hhigh hclosed
  have hunit : (0 : ℚ) < 2 ^ 1074 := pow_pos two_pos _
  have htwo : (0 : ℚ) ≤ 2 := two_pos.le
  have hparity (htie : (4 * x.significand - quartersBelow x) * up * stepDen = k * stepNum * den
      ∨ k * stepNum * den = (4 * x.significand + 2) * up * stepDen) : x.magnitude % 2 = 0 := by
    have heven := beq_iff_eq.mp (hclosed htie)
    have hplace := x.magnitude_eq
    unfold binade at hplace
    omega
  have hquarters (a : ℕ) : ((a * up : ℕ) : ℚ) / den * 2 ^ 1074 = a * (up / den * 2 ^ 1074) := by
    rw [Nat.cast_mul, mul_div_assoc, mul_assoc]
  have hupper := two_mul_upper_end hquarter
  have hlower {j : ℕ} (hj : x.magnitude = j + 1) := two_mul_lower_end hquarter hj
  simp only [← hquarters] at hupper hlower
  apply IsNearest.of_midpoints
  · rw [← hupper]
    exact mul_le_mul_of_nonneg_left ((ratio_le_iff hunit hstep hden).mpr hhigh) htwo
  · intro htie
    rw [← hupper] at htie
    have hend := (mul_left_cancel₀ two_ne_zero htie).ge
    exact hparity (.inr (le_antisymm hhigh ((ratio_le_iff hunit hden hstep).mp hend)))
  · intro j hj
    rw [← hlower hj]
    exact mul_le_mul_of_nonneg_left ((ratio_le_iff hunit hden hstep).mpr hlow) htwo
  · intro j hj htie
    rw [← hlower hj] at htie
    have hend := (mul_left_cancel₀ two_ne_zero htie).le
    exact hparity (.inl (le_antisymm hlow ((ratio_le_iff hunit hstep hden).mp hend)))

end

/-! ## The search -/

/-- The numerator of a power of ten. -/
def stepNum (power : ℤ) : ℕ := if 0 ≤ power then Nat.pow 10 power.toNat else 1

/-- The denominator of a power of ten. -/
def stepDen (power : ℤ) : ℕ := if 0 ≤ power then 1 else Nat.pow 10 (-power).toNat

theorem stepNum_div_stepDen (power : ℤ) : (stepNum power : ℚ) / stepDen power = 10 ^ power :=
  div_eq_zpow 10 power

theorem stepDen_pos (power : ℤ) : 0 < stepDen power := by
  unfold stepDen
  split
  · exact one_pos
  · exact Nat.pow_pos (by decide)

theorem stepNum_pos (power : ℤ) : 0 < stepNum power := by
  unfold stepNum
  split
  · exact Nat.pow_pos (by decide)
  · exact one_pos

/-- The two points of a grid around the value. -/
theorem onGrid?_eq (i : Interval) (power : ℤ) :
    i.onGrid? power
      = (let below := i.value * stepDen power / (stepNum power * i.den)
        match i.contains below (stepNum power) (stepDen power),
          i.contains (below + 1) (stepNum power) (stepDen power) with
        | false, false => none
        | true, false => some below
        | false, true => some (below + 1)
        | true, true =>
          let down := i.value * stepDen power - below * (stepNum power * i.den)
          let up := (below + 1) * (stepNum power * i.den) - i.value * stepDen power
          if down < up then some below
          else if up < down then some (below + 1)
          else some (below + below % 2)) := rfl

/-- The point that is found lies in the interval. -/
theorem contains_of_onGrid? {i : Interval} {power : ℤ} {k : ℕ} (h : i.onGrid? power = some k) :
    i.contains k (stepNum power) (stepDen power) = true := by
  rw [onGrid?_eq] at h
  dsimp only at h
  generalize i.value * stepDen power / (stepNum power * i.den) = below at h
  cases hbelow : i.contains below (stepNum power) (stepDen power) <;>
    cases habove : i.contains (below + 1) (stepNum power) (stepDen power) <;>
    rw [hbelow, habove] at h
  · cases h
  · obtain rfl := Option.some.inj h
    exact habove
  · obtain rfl := Option.some.inj h
    exact hbelow
  · dsimp only at h
    split at h
    · obtain rfl := Option.some.inj h
      exact hbelow
    split at h
    · obtain rfl := Option.some.inj h
      exact habove
    · obtain rfl := Option.some.inj h
      rcases Nat.mod_two_eq_zero_or_one below with heven | hodd
      · rwa [heven]
      · rwa [hodd]

/-- On a grid with a step below the width of the interval a point is found. -/
theorem exists_onGrid?_eq {i : Interval} {power : ℤ} (hden : 0 < i.den) (hlow : i.low < i.value)
    (hhigh : i.value < i.high)
    (hstep : i.low * stepDen power + stepNum power * i.den < i.high * stepDen power) :
    ∃ k, i.onGrid? power = some k := by
  have hsd := stepDen_pos power
  obtain ⟨below, hbelow⟩ : ∃ below, i.value * stepDen power / (stepNum power * i.den) = below :=
    ⟨_, rfl⟩
  obtain ⟨step, hstepEq⟩ : ∃ step, stepNum power * i.den = step := ⟨_, rfl⟩
  have hpos : 0 < step := hstepEq ▸ Nat.mul_pos (stepNum_pos power) hden
  have hfloor : below * step ≤ i.value * stepDen power := by
    rw [← hbelow, hstepEq]
    exact Nat.div_mul_le_self _ _
  have hceil : i.value * stepDen power < (below + 1) * step := by
    rw [← hbelow, hstepEq, Nat.mul_comm (_ + 1)]
    exact Nat.lt_mul_div_succ _ hpos
  have hpoint (k : ℕ) : k * stepNum power * i.den = k * step := by
    rw [Nat.mul_assoc, hstepEq]
  have hlowScaled : i.low * stepDen power < i.value * stepDen power :=
    Nat.mul_lt_mul_of_pos_right hlow hsd
  have hhighScaled : i.value * stepDen power < i.high * stepDen power :=
    Nat.mul_lt_mul_of_pos_right hhigh hsd
  -- If the lower point is out of the interval, the upper one is not past its end.
  have hone : i.contains below (stepNum power) (stepDen power) = true
      ∨ i.contains (below + 1) (stepNum power) (stepDen power) = true := by
    by_cases hout : i.low * stepDen power < below * step
    · refine .inl (contains_of_lt ?_ ?_)
      · rwa [hpoint]
      · rw [hpoint]
        omega
    · have hnext : (below + 1) * step = below * step + step := Nat.succ_mul below step
      refine .inr (contains_of_lt ?_ ?_)
      · rw [hpoint]
        omega
      · rw [hpoint]
        omega
  rw [onGrid?_eq, hbelow]
  dsimp only
  cases hlower : i.contains below (stepNum power) (stepDen power) <;>
    cases hupper : i.contains (below + 1) (stepNum power) (stepDen power)
  · rw [hlower, hupper] at hone
    cases hone <;> contradiction
  · exact ⟨_, rfl⟩
  · exact ⟨_, rfl⟩
  · dsimp only
    split
    · exact ⟨_, rfl⟩
    split
    · exact ⟨_, rfl⟩
    · exact ⟨_, rfl⟩

/-- The search ends with a point of a grid in the interval, if the finest grid has one. -/
theorem exists_search_eq {i : Interval} {point : ℤ} (more count : ℕ)
    (h : ∃ k, i.onGrid? (point - (count + more : ℕ)) = some k) :
    ∃ k power, i.onGrid? power = some k ∧ search i point more count = Decimal.strip k power := by
  induction more generalizing count with
  | zero =>
    obtain ⟨k, hk⟩ := h
    refine ⟨k, _, hk, ?_⟩
    rw [Nat.add_zero] at hk
    rw [search, hk]
    rfl
  | succ more ih =>
    rw [search]
    cases hfound : i.onGrid? (point - count) with
    | some k => exact ⟨k, _, hfound, rfl⟩
    | none =>
      refine ih (count + 1) ?_
      rwa [Nat.add_right_comm, Nat.add_assoc]

/-- Ten to the sixteenth steps of the finest grid are not past the ratio. -/
theorem step_mul_le {num den : ℕ} (hnum : 0 < num) (hden : 0 < den) {power : ℤ}
    (hpower : pointOf num den - (1 + 16 : ℕ) = power) :
    stepNum power * den * 10 ^ 16 ≤ num * stepDen power := by
  have hten : (10 : ℚ) ≠ 0 := by norm_num
  have hdenq : (0 : ℚ) < den := by exact_mod_cast hden
  have hstepq : (0 : ℚ) < stepDen power := by exact_mod_cast stepDen_pos power
  have hscaled : (stepNum power : ℚ) / stepDen power * 10 ^ 16 = 10 ^ (pointOf num den - 1) := by
    rw [stepNum_div_stepDen, ← hpower, ← zpow_natCast, ← zpow_add₀ hten]
    congr 1
    push_cast
    ring
  have hpoint := ten_zpow_pointOf_le hnum hden
  rw [← hscaled, div_mul_eq_mul_div, div_le_div_iff₀ hstepq hdenq] at hpoint
  rw [Nat.mul_right_comm]
  exact_mod_cast hpoint

/-- The significand is less than the width of the interval times ten to the sixteenth. -/
theorem significand_lt_width (x : Binary64) :
    4 * x.significand < (2 + quartersBelow x) * 10 ^ 16 := by
  have hsmall := x.significand_lt
  unfold quartersBelow
  unfold binade at *
  split <;> omega

/-- Seventeen digits suffice: the step of that grid is below the width of the interval. -/
theorem exists_onGrid?_seventeen {x : Binary64} (hx : 0 < x.magnitude) :
    ∃ k, (interval x).onGrid? (pointOf (interval x).value (interval x).den - (1 + 16 : ℕ))
      = some k := by
  obtain ⟨up, den, hup, hden, -, hinterval⟩ := exists_interval_eq x
  have hpos := significand_pos hx
  have hbelow := quartersBelow_le x
  have habove := quartersBelow_pos x
  have hvalue : 0 < 4 * x.significand * up := Nat.mul_pos (by omega) hup
  rw [hinterval]
  dsimp only
  obtain ⟨power, hpower⟩ : ∃ power : ℤ,
      pointOf (4 * x.significand * up) den - (1 + 16 : ℕ) = power := ⟨_, rfl⟩
  have hstep : stepNum power * den < (2 + quartersBelow x) * (up * stepDen power) := by
    have hunit : 0 < up * stepDen power := Nat.mul_pos hup (stepDen_pos power)
    have hsteps := step_mul_le hvalue hden hpower
    rw [Nat.mul_assoc _ up] at hsteps
    have hless := hsteps.trans_lt (Nat.mul_lt_mul_of_pos_right (significand_lt_width x) hunit)
    rw [Nat.mul_right_comm (2 + quartersBelow x)] at hless
    exact Nat.lt_of_mul_lt_mul_right hless
  rw [hpower]
  refine exists_onGrid?_eq hden ?_ ?_ ?_
  · exact Nat.mul_lt_mul_of_pos_right (by omega) hup
  · exact Nat.mul_lt_mul_of_pos_right (by omega) hup
  · dsimp only
    have hends : 4 * x.significand + 2
        = 4 * x.significand - quartersBelow x + (2 + quartersBelow x) := by omega
    rw [hends, Nat.add_mul, Nat.add_mul, Nat.mul_assoc _ up, Nat.mul_assoc _ up]
    exact Nat.add_lt_add_left hstep _

/-- **The decimal of a double is rounded to it.** -/
theorem isNearest_decimal {x : Binary64} (hx : 0 < x.magnitude) :
    (decimal x).digits ≠ 0
      ∧ IsNearest ((decimal x).digits * 10 ^ (decimal x).power * 2 ^ 1074) x.magnitude := by
  obtain ⟨k, power, hk, hsearch⟩ := exists_search_eq 16 1 (exists_onGrid?_seventeen hx)
  have hnear := isNearest_of_contains (stepDen_pos power) (contains_of_onGrid? hk)
  rw [Nat.cast_mul, mul_div_assoc, stepNum_div_stepDen] at hnear
  have hdecimal : decimal x = Decimal.strip k power := hsearch
  rw [hdecimal, Decimal.strip_value]
  refine ⟨Decimal.strip_digits_ne_zero ?_ power, hnear⟩
  -- Zero is rounded to zero.
  rintro rfl
  have hzero : IsNearest (((0 : ℕ) : ℚ) * 10 ^ power * 2 ^ 1074) 0 := by
    apply IsNearest.zero_of_lt
    rw [Nat.cast_zero, zero_mul, zero_mul, mul_zero]
    exact one_pos
  exact hx.ne' (hnear.unique hzero)

end Shortest

end CodeSmell
