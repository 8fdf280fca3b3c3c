/-
The grid of doubles.

Without their signs, the doubles stand in a row, and their bits count them: zero is the
first, the smallest positive double the second, and infinity the one after the largest
finite double. `gridPoint` is what the double at a place of the row is worth, in the
smallest unit. The row goes on past infinity as if there were further exponents, so that
infinity has a worth of its own there, which is two to the 1024th.

Every place is a number of doublings of the unit and a significand, written as one number,
and there are two ways to write the first place of a binade: as the least significand with
its doublings, or as one past the greatest with one doubling less. Both give the same
worth (`gridPoint_add`). So the step from a place to the next one is a single unit, doubled
as often as the unit of the place is, and the grid is strictly increasing.
-/
import CodeSmell.Proofs.Number.Equality
import Mathlib.Order.Monotone.Basic

set_option autoImplicit false

namespace CodeSmell.Binary64

/-- What the double at a place is worth, in the smallest unit. -/
def gridPoint (m : Nat) : Nat :=
  (if m < binade then m else m % binade + binade) * 2 ^ (m / binade - 1)

theorem units_eq_gridPoint (x : Binary64) : x.units = gridPoint x.magnitude := by
  have hdoublings : x.doublings = x.magnitude / binade - 1 := by
    unfold doublings
    omega
  rw [units, significand, hdoublings, gridPoint]

/-- The worth of a place that is given by doublings and a significand, which may be one past
the greatest. -/
theorem gridPoint_add {k s : Nat} (hs : s ≤ 2 * binade) (hk : 0 < k → binade ≤ s) :
    gridPoint (k * binade + s) = s * 2 ^ k := by
  have hbinade : 0 < binade := by decide
  rw [gridPoint]
  by_cases hsmall : s < binade
  · -- Only the first binade has significands that are not full.
    have hk0 : k = 0 := by
      by_contra hne
      have := hk (Nat.pos_of_ne_zero hne)
      omega
    subst hk0
    rw [Nat.zero_mul, Nat.zero_add, if_pos hsmall, Nat.div_eq_of_lt hsmall]
  · obtain ⟨r, rfl⟩ : ∃ r, s = binade + r := ⟨s - binade, by omega⟩
    have hplace : k * binade + (binade + r) = r + binade * (k + 1) := by ring
    have hlarge : ¬r + binade * (k + 1) < binade := by
      rw [Nat.mul_succ]
      omega
    rw [hplace, if_neg hlarge, Nat.add_mul_mod_self_left, Nat.add_mul_div_left r (k + 1) hbinade]
    by_cases hlast : r < binade
    · rw [Nat.mod_eq_of_lt hlast, Nat.div_eq_of_lt hlast, Nat.add_comm r]
      congr 2
      omega
    · obtain rfl : r = binade := by omega
      have hdouble : 1 + (k + 1) - 1 = k + 1 := by omega
      rw [Nat.mod_self, Nat.div_self hbinade, Nat.zero_add, hdouble]
      ring

/-- Every place has doublings and a significand. -/
theorem exists_place_eq (m : Nat) :
    ∃ k s, m = k * binade + s ∧ s < 2 * binade ∧ (0 < k → binade ≤ s) := by
  refine ⟨m / binade - 1, m - (m / binade - 1) * binade, ?_⟩
  unfold binade
  omega

/-- The step to the next place. -/
theorem gridPoint_succ {k s : Nat} (hs : s < 2 * binade) (hk : 0 < k → binade ≤ s) :
    gridPoint (k * binade + s + 1) = gridPoint (k * binade + s) + 2 ^ k := by
  have hnext := gridPoint_add (k := k) (s := s + 1) hs fun h => Nat.le_succ_of_le (hk h)
  rw [Nat.add_assoc, hnext, gridPoint_add hs.le hk, Nat.add_mul, Nat.one_mul]

theorem gridPoint_lt_succ (m : Nat) : gridPoint m < gridPoint (m + 1) := by
  obtain ⟨k, s, rfl, hs, hk⟩ := exists_place_eq m
  rw [gridPoint_succ hs hk]
  exact Nat.lt_add_of_pos_right (Nat.two_pow_pos k)

theorem gridPoint_strictMono : StrictMono gridPoint := strictMono_nat_of_lt_succ gridPoint_lt_succ

@[simp] theorem gridPoint_zero : gridPoint 0 = 0 := by
  decide

/-- The place of infinity, as doublings and a significand. -/
theorem infinityBits_eq : infinityBits = 2046 * binade + binade := by
  decide

/-- The worth of infinity. -/
theorem gridPoint_infinityBits : gridPoint infinityBits = 2 ^ 2098 := by
  have hbinade : binade = 2 ^ 52 := by decide
  rw [infinityBits_eq, gridPoint_add (by omega) fun _ => Nat.le_refl _, hbinade, ← pow_add]

/-- The step from the largest finite double to infinity. -/
theorem gridPoint_infinityBits_eq_add :
    gridPoint infinityBits = gridPoint (infinityBits - 1) + 2 ^ 2045 := by
  have hplace : infinityBits - 1 = 2045 * binade + (2 * binade - 1) := by decide
  have hnext : infinityBits = 2045 * binade + (2 * binade - 1) + 1 := by decide
  rw [hplace, hnext]
  exact gridPoint_succ (by decide) fun _ => by decide

end CodeSmell.Binary64
