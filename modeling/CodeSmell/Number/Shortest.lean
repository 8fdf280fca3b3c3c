/-
The shortest decimal that reads back.

Every double owns an interval of the reals: those that round to it. Its ends are
the midpoints to the neighbouring doubles, and they belong to the interval
exactly when the last bit of the double is zero, because a tie goes to the even
neighbour. Below a power of two the neighbour is only half as far.

A decimal with a given number of digits lies on a grid, and if any point of the
grid lies in the interval then one of the two around the double does. So the
search asks the two points of ever finer grids, and the first grid with an
answer gives the fewest digits; of two answers the nearer is taken, of two
equally near the even one. Seventeen digits always suffice. All of it is
arithmetic on naturals.
-/
import CodeSmell.Number.Binary64

set_option autoImplicit false

namespace CodeSmell

/-- A positive decimal: `digits` times ten to the power. -/
structure Decimal where
  digits : Nat
  power : Int
  deriving DecidableEq, Repr

namespace Decimal

/-- The number of decimal digits of a natural, none for zero. -/
def width (n : Nat) : Nat :=
  if h : n = 0 then 0 else width (n / 10) + 1
termination_by n
decreasing_by omega

/-- The digits without the zeros at the end, which go into the power. -/
def strip (n : Nat) (power : Int) : Decimal :=
  if h : n ≠ 0 ∧ n % 10 = 0 then strip (n / 10) (power + 1) else ⟨n, power⟩
termination_by n
decreasing_by omega

/-- The place of the decimal point, counted from before the first digit. -/
def point (d : Decimal) : Int := width d.digits + d.power

end Decimal

namespace Shortest

/-- The interval of a positive double, in quarters of its unit over a common
denominator: `(low, value, high, denominator, closed)`. -/
structure Interval where
  low : Nat
  value : Nat
  high : Nat
  den : Nat
  closed : Bool

/-- The reals that round to the double. -/
def interval (x : Binary64) : Interval :=
  let m := x.significand
  let power := x.unitExponent - 2
  let up := if 0 ≤ power then Nat.pow 2 power.toNat else 1
  let den := if 0 ≤ power then 1 else Nat.pow 2 (-power).toNat
  -- Half a unit down to the end of the interval, a quarter below a power of two.
  let below := if m = Binary64.binade ∧ -1074 < x.unitExponent then 1 else 2
  { low := (4 * m - below) * up
    value := 4 * m * up
    high := (4 * m + 2) * up
    den := den
    closed := m % 2 == 0 }

/-- The place of the decimal point of `num / den`: ten to it is above the ratio,
ten to one less is not. -/
def pointOf (num den : Nat) : Int :=
  if den ≤ num then Decimal.width (num / den)
  else 1 - (Decimal.width ((den + num - 1) / num - 1) : Int)

/-- A point `k` of the grid with the given step lies in the interval. -/
def Interval.contains (i : Interval) (k stepNum stepDen : Nat) : Bool :=
  let p := k * stepNum * i.den
  if i.closed then decide (i.low * stepDen ≤ p) && decide (p ≤ i.high * stepDen)
  else decide (i.low * stepDen < p) && decide (p < i.high * stepDen)

/-- The point of the grid of `ten ^ power` that lies in the interval and is
nearest to the value, the even one of two equally near. -/
def Interval.onGrid? (i : Interval) (power : Int) : Option Nat :=
  let stepNum := if 0 ≤ power then Nat.pow 10 power.toNat else 1
  let stepDen := if 0 ≤ power then 1 else Nat.pow 10 (-power).toNat
  let target := i.value * stepDen
  let step := stepNum * i.den
  let below := target / step
  let above := below + 1
  match i.contains below stepNum stepDen, i.contains above stepNum stepDen with
  | false, false => none
  | true, false => some below
  | false, true => some above
  -- Both points will do: the nearer one, and of two equally near the even one.
  | true, true =>
    let down := target - below * step
    let up := above * step - target
    if down < up then some below
    else if up < down then some above
    else some (below + below % 2)

/-- The coarsest of the grids from `count` digits on that has a point in the
interval, and that point. -/
def search (i : Interval) (point : Int) : Nat → Nat → Decimal
  | 0, count => Decimal.strip (((i.onGrid? (point - count)).getD 0)) (point - count)
  | more + 1, count =>
    match i.onGrid? (point - count) with
    | some k => Decimal.strip k (point - count)
    | none => search i point more (count + 1)

/-- The shortest decimal that reads back as the absolute value of a finite double
other than zero. -/
def decimal (x : Binary64) : Decimal :=
  let i := interval x
  search i (pointOf i.value i.den) 16 1

end Shortest

example : Shortest.decimal ⟨0x3FB999999999999A⟩ = ⟨1, -1⟩ := by decide +kernel
example : Shortest.decimal ⟨1⟩ = ⟨5, -324⟩ := by decide +kernel

end CodeSmell
