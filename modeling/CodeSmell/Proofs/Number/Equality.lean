/-
Doubles that are equal as numbers.

A finite double is a whole number of times the smallest unit, two to the power of
minus 1074, so its comparison with an integer is an equality of integers. A significand
that is not the smallest possible fills its 53 bits, and then no larger unit could hold
the value; so doubles of the same value have the same bits, the sign of a zero apart.
Main statement: two doubles that are both a given integer are the same number.
-/
import CodeSmell.Number.Binary64
import Mathlib.Algebra.Order.Ring.Int
import Mathlib.Tactic.Ring

set_option autoImplicit false

namespace CodeSmell.Binary64

/-! ## Values in the smallest unit -/

/-- How often the smallest unit is doubled to give the unit of a double. -/
def doublings (x : Binary64) : Nat := max (x.magnitude / binade) 1 - 1

/-- The absolute value of a finite double, in the smallest unit. -/
def units (x : Binary64) : Nat := x.significand * 2 ^ x.doublings

/-- The value of a finite double, in the smallest unit. -/
def signedUnits (x : Binary64) : Int := if x.negative then -(x.units : Int) else x.units

/-- The significand of a double, with its sign. -/
def signedSignificand (x : Binary64) : Int :=
  if x.negative then -(x.significand : Int) else x.significand

theorem signedUnits_eq (x : Binary64) :
    x.signedUnits = x.signedSignificand * 2 ^ x.doublings := by
  rw [signedUnits, units, signedSignificand]
  split <;> simp

theorem unitExponent_eq (x : Binary64) : x.unitExponent = x.doublings - 1074 := by
  unfold unitExponent doublings
  omega

/-- The bits without the sign are the doublings and the significand as one number. -/
theorem magnitude_eq (x : Binary64) : x.magnitude = x.doublings * binade + x.significand := by
  unfold doublings significand binade
  split <;> omega

theorem significand_lt (x : Binary64) : x.significand < 2 * binade := by
  unfold significand binade
  split <;> omega

/-- Where the unit is not the smallest one, all bits of the significand are in use. -/
theorem binade_le_significand {x : Binary64} (h : 0 < x.doublings) : binade ≤ x.significand := by
  unfold doublings at h
  unfold significand
  unfold binade at *
  split <;> omega

theorem units_lt_of_doublings_lt {x y : Binary64} (h : x.doublings < y.doublings) :
    x.units < y.units := by
  have hy : binade ≤ y.significand := binade_le_significand (by omega)
  calc x.units < 2 * binade * 2 ^ x.doublings :=
        Nat.mul_lt_mul_of_pos_right x.significand_lt (Nat.two_pow_pos _)
    _ = binade * 2 ^ (x.doublings + 1) := by ring
    _ ≤ y.significand * 2 ^ y.doublings :=
        Nat.mul_le_mul hy (Nat.pow_le_pow_right (by decide) h)

/-- The absolute value tells the bits without the sign. -/
theorem magnitude_eq_of_units_eq {x y : Binary64} (h : x.units = y.units) :
    x.magnitude = y.magnitude := by
  have hdoublings : x.doublings = y.doublings := by
    rcases Nat.lt_trichotomy x.doublings y.doublings with hlt | heq | hgt
    · exact absurd h (Nat.ne_of_lt (units_lt_of_doublings_lt hlt))
    · exact heq
    · exact absurd h (Nat.ne_of_gt (units_lt_of_doublings_lt hgt))
  have hsignificand : x.significand = y.significand := by
    rw [units, units, hdoublings] at h
    exact Nat.eq_of_mul_eq_mul_right (Nat.two_pow_pos _) h
  rw [magnitude_eq, magnitude_eq, hdoublings, hsignificand]

/-- The bits are the sign and the other bits. -/
theorem eq_of_parts_eq {x y : Binary64} (hsign : x.negative = y.negative)
    (hmagnitude : x.magnitude = y.magnitude) : x = y := by
  have hx := x.bits.toNat_lt
  have hy := y.bits.toNat_lt
  have hhigh : signBit ≤ x.bits.toNat ↔ signBit ≤ y.bits.toNat := decide_eq_decide.mp hsign
  unfold magnitude at hmagnitude
  unfold signBit at *
  have hbits : x.bits.toNat = y.bits.toNat := by omega
  cases x; cases y
  exact congrArg Binary64.mk (UInt64.toNat_inj.mp hbits)

/-- Two doubles of one value are equal, or both are zeros. -/
theorem eq_or_isZero_of_signedUnits_eq {x y : Binary64} (h : x.signedUnits = y.signedUnits) :
    x = y ∨ (x.isZero = true ∧ y.isZero = true) := by
  have hunits : x.units = y.units := by
    unfold signedUnits at h
    split at h <;> split at h <;> omega
  have hmagnitude := magnitude_eq_of_units_eq hunits
  by_cases hzero : x.magnitude = 0
  · exact .inr ⟨beq_iff_eq.mpr hzero, beq_iff_eq.mpr (hmagnitude ▸ hzero)⟩
  · refine .inl (eq_of_parts_eq ?_ hmagnitude)
    have hpos : 0 < x.units := by
      refine Nat.mul_pos (Nat.pos_of_ne_zero fun hnone => hzero ?_) (Nat.two_pow_pos _)
      -- Without a significand there are no doublings either.
      have hdoublings : x.doublings = 0 := by
        by_contra hdoublings
        have := binade_le_significand (Nat.pos_of_ne_zero hdoublings)
        unfold binade at this
        omega
      rw [magnitude_eq, hnone, hdoublings, Nat.zero_mul]
    rw [signedUnits, signedUnits] at h
    by_cases hx : x.negative = true
    · by_cases hy : y.negative = true
      · rw [hx, hy]
      · rw [if_pos hx, if_neg hy] at h
        omega
    · by_cases hy : y.negative = true
      · rw [if_neg hx, if_pos hy] at h
        omega
      · rw [Bool.eq_false_iff.mpr hx, Bool.eq_false_iff.mpr hy]

/-! ## Comparison with integers -/

/-- A power of two that is on both sides of an equality. -/
theorem mul_two_pow_sub_eq_iff (a b : Int) {m n : Nat} (h : n ≤ m) :
    a * 2 ^ (m - n) = b ↔ a * 2 ^ m = b * 2 ^ n := by
  have hpow : (2 : Int) ^ n ≠ 0 := pow_ne_zero n two_ne_zero
  rw [← mul_left_inj' hpow, mul_assoc, ← pow_add, Nat.sub_add_cancel h]

/-- A finite double is a given integer if it is that many times two to the 1074th of the
smallest unit. -/
theorem eqInt_iff {x : Binary64} {k : Int} :
    x.eqInt k = true
      ↔ x.isNaN = false ∧ x.isInfinite = false ∧ x.signedUnits = k * 2 ^ 1074 := by
  have hpow (n : Nat) : ((Nat.pow 2 n : Nat) : Int) = 2 ^ n := Int.natCast_pow 2 n
  rw [x.signedUnits_eq, signedSignificand, ← and_assoc, ← Bool.or_eq_false_iff]
  unfold eqInt
  by_cases hfinite : (x.isNaN || x.isInfinite) = true
  · rw [if_pos hfinite, hfinite]
    simp only [Bool.false_eq_true, Bool.true_eq_false, false_and]
  · rw [if_neg hfinite, Bool.eq_false_iff.mpr hfinite, x.unitExponent_eq]
    simp only [true_and]
    by_cases h : 1074 ≤ x.doublings
    · have hexponent : ((x.doublings : Int) - 1074).toNat = x.doublings - 1074 := by omega
      rw [if_pos (by omega), hexponent, hpow, beq_iff_eq, mul_two_pow_sub_eq_iff _ _ h]
    · have hexponent : (-((x.doublings : Int) - 1074)).toNat = 1074 - x.doublings := by omega
      rw [if_neg (by omega), hexponent, hpow, beq_iff_eq, eq_comm,
        mul_two_pow_sub_eq_iff _ _ (Nat.le_of_not_le h), eq_comm]

/-! ## Equal numbers -/

theorem sameNumber_iff {x y : Binary64} :
    x.sameNumber y = true
      ↔ x.isNaN = false ∧ y.isNaN = false ∧ (x = y ∨ (x.isZero = true ∧ y.isZero = true)) := by
  simp only [sameNumber, Bool.and_eq_true, Bool.or_eq_true, Bool.not_eq_true', beq_iff_eq,
    and_assoc]

/-- A zero of either sign has the value zero. -/
theorem signedUnits_eq_zero {x : Binary64} (h : x.isZero = true) : x.signedUnits = 0 := by
  have hmagnitude : x.magnitude = 0 := beq_iff_eq.mp h
  have hsignificand : x.significand = 0 := by
    have := x.magnitude_eq
    omega
  rw [signedUnits, units, hsignificand, Nat.zero_mul]
  split <;> rfl

/-- Two doubles that are the same integer are the same number. -/
theorem sameNumber_of_eqInt {x y : Binary64} {k : Int} (hx : x.eqInt k = true)
    (hy : y.eqInt k = true) : x.sameNumber y = true := by
  obtain ⟨hxnan, -, hxunits⟩ := eqInt_iff.mp hx
  obtain ⟨hynan, -, hyunits⟩ := eqInt_iff.mp hy
  have hunits : x.signedUnits = y.signedUnits := hxunits.trans hyunits.symm
  exact sameNumber_iff.mpr ⟨hxnan, hynan, eq_or_isZero_of_signedUnits_eq hunits⟩

/-- The same number is the same integer. -/
theorem eqInt_of_sameNumber {x y : Binary64} {k : Int} (h : x.sameNumber y = true)
    (hy : y.eqInt k = true) : x.eqInt k = true := by
  obtain ⟨hxnan, -, rfl | ⟨hxzero, hyzero⟩⟩ := sameNumber_iff.mp h
  · exact hy
  · obtain ⟨-, -, hunits⟩ := eqInt_iff.mp hy
    have hfinite : x.isInfinite = false := by
      rw [isInfinite, beq_iff_eq.mp hxzero]
      rfl
    refine eqInt_iff.mpr ⟨hxnan, hfinite, ?_⟩
    rw [← hunits, signedUnits_eq_zero hxzero, signedUnits_eq_zero hyzero]

theorem sameNumber_refl {x : Binary64} (h : x.isNaN = false) : x.sameNumber x = true :=
  sameNumber_iff.mpr ⟨h, h, .inl rfl⟩

theorem sameNumber_symm {x y : Binary64} (h : x.sameNumber y = true) : y.sameNumber x = true := by
  obtain ⟨hx, hy, heq⟩ := sameNumber_iff.mp h
  exact sameNumber_iff.mpr ⟨hy, hx, heq.imp Eq.symm And.symm⟩

theorem sameNumber_trans {x y z : Binary64} (hxy : x.sameNumber y = true)
    (hyz : y.sameNumber z = true) : x.sameNumber z = true := by
  obtain ⟨hxnan, -, rfl | ⟨hxzero, hyzero⟩⟩ := sameNumber_iff.mp hxy
  · exact hyz
  · obtain ⟨-, hznan, rfl | ⟨-, hzzero⟩⟩ := sameNumber_iff.mp hyz
    · exact hxy
    · exact sameNumber_iff.mpr ⟨hxnan, hznan, .inr ⟨hxzero, hzzero⟩⟩

end CodeSmell.Binary64
