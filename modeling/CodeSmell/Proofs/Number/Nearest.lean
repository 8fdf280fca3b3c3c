/-
The nearest place of the grid.

A number, given in the smallest unit, is rounded to the place of the grid whose worth is
nearest to it, and a number half way between two places to the one of them that is even.
There is no second such place: of two of them that are equally near, both even, the place
between would be nearer still.

Whether a place is the one is a matter of the two half-way points to its neighbours
(`IsNearest.of_midpoints`). Main statements: there is at most one nearest place
(`IsNearest.unique`), and infinity is it, or a place past infinity, exactly from the
half-way point above the largest finite double on (`IsNearest.infinityBits_le_iff`).
-/
import CodeSmell.Proofs.Number.Grid
import Mathlib.Algebra.Order.Field.Power
import Mathlib.Algebra.Order.Field.Rat
import Mathlib.Tactic.FieldSimp
import Mathlib.Tactic.Linarith
import Mathlib.Tactic.Positivity

set_option autoImplicit false

namespace CodeSmell.Binary64

/-- The place that a number in the smallest unit is rounded to. -/
structure IsNearest (q : ℚ) (m : ℕ) : Prop where
  le (k : ℕ) : |q - gridPoint m| ≤ |q - gridPoint k|
  even {k : ℕ} : k ≠ m → |q - gridPoint m| = |q - gridPoint k| → m % 2 = 0

theorem gridPoint_cast_lt {m k : ℕ} (h : m < k) : (gridPoint m : ℚ) < gridPoint k := by
  exact_mod_cast gridPoint_strictMono h

theorem gridPoint_cast_le {m k : ℕ} (h : m ≤ k) : (gridPoint m : ℚ) ≤ gridPoint k := by
  exact_mod_cast gridPoint_strictMono.monotone h

/-! ## Half-way points -/

section

variable {q a b : ℚ}

/-- Of two numbers, the lower one is no farther than the upper one up to their half-way
point. -/
theorem abs_sub_le_of_two_mul_le (hab : a ≤ b) (h : 2 * q ≤ a + b) : |q - a| ≤ |q - b| := by
  have hb : q ≤ b := by linarith
  rw [abs_of_nonpos (sub_nonpos.mpr hb), abs_le]
  constructor <;> linarith

/-- The upper one is no farther than the lower one from their half-way point on. -/
theorem abs_sub_le_of_le_two_mul (hab : a ≤ b) (h : a + b ≤ 2 * q) : |q - b| ≤ |q - a| := by
  have ha : a ≤ q := by linarith
  rw [abs_of_nonneg (sub_nonneg.mpr ha), abs_le]
  constructor <;> linarith

/-- Two different numbers are equally far only at their half-way point. -/
theorem two_mul_eq_of_abs_sub_eq (hab : a ≠ b) (h : |q - a| = |q - b|) : 2 * q = a + b := by
  rcases abs_eq_abs.mp h with heq | heq
  · exact absurd (sub_right_injective heq) hab
  · linarith

end

/-- A place is the nearest one if the number is not past the half-way points to its
neighbours, and on such a point only if the place is even. -/
theorem IsNearest.of_midpoints {q : ℚ} {m : ℕ}
    (above : 2 * q ≤ gridPoint m + gridPoint (m + 1))
    (aboveEven : 2 * q = gridPoint m + gridPoint (m + 1) → m % 2 = 0)
    (below : ∀ j, m = j + 1 → (gridPoint j : ℚ) + gridPoint m ≤ 2 * q)
    (belowEven : ∀ j, m = j + 1 → 2 * q = gridPoint j + gridPoint m → m % 2 = 0) :
    IsNearest q m := by
  constructor
  · intro k
    rcases Nat.lt_trichotomy k m with hlt | rfl | hgt
    · obtain ⟨j, rfl⟩ : ∃ j, m = j + 1 := ⟨m - 1, by omega⟩
      have hkj : (gridPoint k : ℚ) ≤ gridPoint j := gridPoint_cast_le (by omega)
      have hj := below j rfl
      exact abs_sub_le_of_le_two_mul (gridPoint_cast_le hlt.le) (by linarith)
    · exact le_rfl
    · have hmk : (gridPoint (m + 1) : ℚ) ≤ gridPoint k := gridPoint_cast_le hgt
      exact abs_sub_le_of_two_mul_le (gridPoint_cast_le hgt.le) (by linarith)
  · intro k hne htie
    rcases Nat.lt_or_gt_of_ne hne with hlt | hgt
    · obtain ⟨j, rfl⟩ : ∃ j, m = j + 1 := ⟨m - 1, by omega⟩
      have hmid := two_mul_eq_of_abs_sub_eq (gridPoint_cast_lt hlt).ne' htie
      have hkj : (gridPoint k : ℚ) ≤ gridPoint j := gridPoint_cast_le (by omega)
      have hj := below j rfl
      exact belowEven j rfl (by linarith)
    · have hmid := two_mul_eq_of_abs_sub_eq (gridPoint_cast_lt hgt).ne htie
      have hmk : (gridPoint (m + 1) : ℚ) ≤ gridPoint k := gridPoint_cast_le hgt
      exact aboveEven (by linarith)

namespace IsNearest

variable {q : ℚ} {m k : ℕ}

/-- There is only one nearest place. -/
theorem unique (hm : IsNearest q m) (hk : IsNearest q k) : m = k := by
  wlog hle : m ≤ k generalizing m k with hsymm
  · exact (hsymm hk hm (by omega)).symm
  by_contra hne
  have htie : |q - gridPoint m| = |q - gridPoint k| := le_antisymm (hm.le k) (hk.le m)
  have hmEven := hm.even (Ne.symm hne) htie
  have hkEven := hk.even hne htie.symm
  have hmid := two_mul_eq_of_abs_sub_eq (gridPoint_cast_lt (by omega)).ne htie
  -- Between two even places there is another one.
  have hlow : (gridPoint m : ℚ) < gridPoint (m + 1) := gridPoint_cast_lt (by omega)
  have hhigh : (gridPoint (m + 1) : ℚ) < gridPoint k := gridPoint_cast_lt (by omega)
  have hbetween := hm.le (m + 1)
  have hdistance : |q - gridPoint m| = q - gridPoint m := abs_of_pos (by linarith)
  rw [hdistance] at hbetween
  rcases le_abs.mp hbetween with h | h <;> linarith

/-- What is less than half the smallest unit is rounded to zero. -/
theorem zero_of_lt (h : 2 * q < 1) : IsNearest q 0 := by
  have hfirst : Binary64.gridPoint 1 = 1 := by decide
  apply of_midpoints
  · rw [gridPoint_zero, hfirst]
    push_cast
    linarith
  · intro _
    rfl
  · intro j hj
    omega
  · intro j hj
    omega

/-- Infinity is reached from the half-way point above the largest finite double on, which
is itself rounded to infinity, whose place is even. -/
theorem infinityBits_le_iff (h : IsNearest q m) :
    infinityBits ≤ m ↔ 2 ^ 2098 - 2 ^ 2044 ≤ q := by
  have hodd : (infinityBits - 1) % 2 = 1 := by decide
  have hpos : 0 < infinityBits := by decide
  have hhalf : (2 : ℚ) ^ 2098 - 2 ^ 2044
      = (Binary64.gridPoint (infinityBits - 1) + Binary64.gridPoint infinityBits) / 2 := by
    have hpow (n : ℕ) : ((2 ^ n : ℕ) : ℚ) = 2 ^ n := Nat.cast_pow 2 n
    have hworth : (Binary64.gridPoint infinityBits : ℚ) = 2 ^ 2098 := by
      rw [gridPoint_infinityBits, hpow]
    have hstep : (Binary64.gridPoint infinityBits : ℚ)
        = Binary64.gridPoint (infinityBits - 1) + 2 * 2 ^ 2044 := by
      rw [gridPoint_infinityBits_eq_add, Nat.cast_add, hpow, ← pow_succ']
    rw [← hworth]
    generalize (2 : ℚ) ^ 2044 = half at hstep
    linarith
  rw [hhalf]
  constructor
  · intro hle
    by_contra hlt
    have hgrid : (Binary64.gridPoint infinityBits : ℚ) ≤ Binary64.gridPoint m :=
      gridPoint_cast_le hle
    have hstep : (Binary64.gridPoint (infinityBits - 1) : ℚ) < Binary64.gridPoint infinityBits :=
      gridPoint_cast_lt (by omega)
    have hnear := h.le (infinityBits - 1)
    have htie := le_antisymm hnear
      (abs_sub_le_of_two_mul_le (gridPoint_cast_le (by omega)) (by linarith))
    have hmid := two_mul_eq_of_abs_sub_eq (gridPoint_cast_lt (by omega)).ne' htie
    linarith
  · intro hle
    by_contra hlt
    have hgrid : (Binary64.gridPoint m : ℚ) ≤ Binary64.gridPoint (infinityBits - 1) :=
      gridPoint_cast_le (by omega)
    have hnear := h.le infinityBits
    have htie := le_antisymm hnear
      (abs_sub_le_of_le_two_mul (gridPoint_cast_le (by omega)) (by linarith))
    have hmid := two_mul_eq_of_abs_sub_eq (gridPoint_cast_lt (by omega)).ne htie
    -- So the number is the half-way point and the place the largest finite one, which is odd.
    have heven := h.even (by omega) htie
    have hlast : m = infinityBits - 1 := by
      have hsame : (Binary64.gridPoint m : ℚ) = Binary64.gridPoint (infinityBits - 1) := by linarith
      exact gridPoint_strictMono.injective (by exact_mod_cast hsame)
    omega

end IsNearest

end CodeSmell.Binary64
