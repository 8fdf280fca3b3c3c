/-
Doubles beside integers.

A double is set beside an integer without forming its value: the significand is scaled up by
the exponent, or the integer is, whichever keeps both sides whole. Main statements: the two
tests on finite doubles say of the value what they are named for, that it is below an integer
(`ltInt_iff`) and that it is one (`isIntegral_iff`).
-/
import CodeSmell.Proofs.Number.Rounding

set_option autoImplicit false

namespace CodeSmell.Binary64

/-- A double is finite if it is neither an infinity nor no number at all. -/
theorem magnitude_lt_infinityBits_iff {x : Binary64} :
    x.magnitude < infinityBits ↔ x.isNaN = false ∧ x.isInfinite = false := by
  rw [isNaN, isInfinite, decide_eq_false_iff_not, beq_eq_false_iff_ne]
  omega

theorem value_eq_signedSignificand (x : Binary64) :
    x.value = x.signedSignificand * 2 ^ x.doublings / 2 ^ 1074 := by
  rw [value, signedUnits_eq, Int.cast_mul, Int.cast_pow, Int.cast_ofNat]

theorem cast_two_pow (n : ℕ) : ((Nat.pow 2 n : ℕ) : ℚ) = 2 ^ n := Nat.cast_pow 2 n

/-- From the unit one on, the value is the significand scaled up. -/
theorem value_of_unitExponent_nonneg {x : Binary64} (h : 0 ≤ x.unitExponent) :
    x.value = ((x.signedSignificand * Nat.pow 2 x.unitExponent.toNat : Int) : ℚ) := by
  have hdoublings : x.doublings = x.unitExponent.toNat + 1074 := by
    rw [unitExponent_eq] at h ⊢
    omega
  have hunit : (2 : ℚ) ^ 1074 ≠ 0 := pow_ne_zero _ two_ne_zero
  rw [value_eq_signedSignificand, hdoublings, pow_add, ← mul_assoc, mul_div_assoc,
    div_self hunit, mul_one, Int.cast_mul, Int.cast_natCast, cast_two_pow]

/-- Below the unit one, scaling the value up gives the significand. -/
theorem value_mul_of_unitExponent_neg {x : Binary64} (h : ¬0 ≤ x.unitExponent) :
    x.value * (Nat.pow 2 (-x.unitExponent).toNat : ℕ) = x.signedSignificand := by
  have hdoublings : x.doublings + (-x.unitExponent).toNat = 1074 := by
    rw [unitExponent_eq] at h ⊢
    omega
  have hunit : (2 : ℚ) ^ 1074 ≠ 0 := pow_ne_zero _ two_ne_zero
  rw [value_eq_signedSignificand, cast_two_pow, div_mul_eq_mul_div, mul_assoc, ← pow_add,
    hdoublings, mul_div_assoc, div_self hunit, mul_one]

/-- A finite double is below an integer if its value is. -/
theorem ltInt_iff {x : Binary64} (h : x.magnitude < infinityBits) {k : Int} :
    x.ltInt k = true ↔ x.value < k := by
  obtain ⟨hnan, hinfinite⟩ := magnitude_lt_infinityBits_iff.mp h
  have hltInt : x.ltInt k = if 0 ≤ x.unitExponent
      then decide (x.signedSignificand * Nat.pow 2 x.unitExponent.toNat < k)
      else decide (x.signedSignificand < k * Nat.pow 2 (-x.unitExponent).toNat) := by
    unfold ltInt signedSignificand
    rw [hnan, hinfinite]
    rfl
  rw [hltInt]
  by_cases hexponent : 0 ≤ x.unitExponent
  · rw [if_pos hexponent, decide_eq_true_iff, value_of_unitExponent_nonneg hexponent]
    exact Int.cast_lt.symm
  · have hscale : (0 : ℚ) < (Nat.pow 2 (-x.unitExponent).toNat : ℕ) :=
      Nat.cast_pos.mpr (Nat.two_pow_pos _)
    rw [if_neg hexponent, decide_eq_true_iff, ← Int.cast_lt (R := ℚ),
      ← value_mul_of_unitExponent_neg hexponent, Int.cast_mul, Int.cast_natCast]
    exact mul_lt_mul_iff_left₀ hscale

/-- Of the doubles that are not finite, only the negative infinity is below an integer. -/
theorem ltInt_of_not_finite {x : Binary64} (h : ¬x.magnitude < infinityBits) (k : Int) :
    x.ltInt k = (x.isInfinite && x.negative) := by
  by_cases hinfinite : x.magnitude = infinityBits
  · have hnan : x.isNaN = false := decide_eq_false (by omega)
    have htop : x.isInfinite = true := beq_iff_eq.mpr hinfinite
    rw [ltInt, hnan, htop]
    rfl
  · have hnan : x.isNaN = true := decide_eq_true (by omega)
    have htop : x.isInfinite = false := beq_eq_false_iff_ne.mpr hinfinite
    rw [ltInt, hnan, htop]
    rfl

/-- A double is integral if it is finite and its value is an integer. -/
theorem isIntegral_iff {x : Binary64} :
    x.isIntegral = true ↔ x.magnitude < infinityBits ∧ ∃ n : Int, x.value = n := by
  rw [isIntegral, Bool.and_eq_true, decide_eq_true_iff, Bool.or_eq_true, decide_eq_true_iff,
    beq_iff_eq]
  refine and_congr_right fun _ => ?_
  by_cases hexponent : 0 ≤ x.unitExponent
  · exact iff_of_true (.inl hexponent) ⟨_, value_of_unitExponent_nonneg hexponent⟩
  · -- Below the unit one, the question is whether the scale divides the significand.
    have hscale : ((Nat.pow 2 (-x.unitExponent).toNat : ℕ) : ℚ) ≠ 0 :=
      Nat.cast_ne_zero.mpr (Nat.two_pow_pos _).ne'
    have hdvd : Nat.pow 2 (-x.unitExponent).toNat ∣ x.significand
        ↔ ((Nat.pow 2 (-x.unitExponent).toNat : ℕ) : Int) ∣ x.signedSignificand := by
      rw [signedSignificand, ← Int.natCast_dvd_natCast]
      split
      · exact (Int.dvd_neg).symm
      · rfl
    rw [or_iff_right hexponent, ← Nat.dvd_iff_mod_eq_zero, hdvd, dvd_iff_exists_eq_mul_left]
    refine exists_congr fun n => ?_
    rw [← mul_left_inj' hscale, value_mul_of_unitExponent_neg hexponent]
    norm_cast

end CodeSmell.Binary64
