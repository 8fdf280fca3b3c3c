/-
Doubles, in exact arithmetic.

A double is its 64 bits. What it denotes is a natural number of units, each a
power of two, so every question about it is one about natural numbers. Rounding
goes the other way: a ratio of two naturals falls between two neighbours on the
grid of doubles, and the nearer one is taken, of two equally near the one whose
last bit is zero. Writing the exponent field and the significand as one number
makes the carry into the next power of two come out right, and makes everything
from 2^1024 on an infinity.
-/
set_option autoImplicit false

namespace CodeSmell

/-- A double, by its bits. -/
structure Binary64 where
  bits : UInt64
  deriving DecidableEq, Repr

namespace Binary64

/-- The number of doubles from a power of two up to the next: two to the 52nd. -/
def binade : Nat := 0x10000000000000

/-- The sign bit, and the number of doubles of one sign: two to the 63rd. -/
def signBit : Nat := 0x8000000000000000

/-- The bit patterns without the sign, from which infinity begins. -/
def infinityBits : Nat := 0x7FF * binade

/-- The double with a sign and the other 63 bits. -/
def ofParts (negative : Bool) (magnitude : Nat) : Binary64 :=
  ⟨UInt64.ofNat ((if negative then signBit else 0) + magnitude)⟩

/-- The sign bit. -/
def negative (x : Binary64) : Bool := decide (signBit ≤ x.bits.toNat)

/-- The bits without the sign. -/
def magnitude (x : Binary64) : Nat := x.bits.toNat % signBit

def isNaN (x : Binary64) : Bool := decide (infinityBits < x.magnitude)

def isInfinite (x : Binary64) : Bool := x.magnitude == infinityBits

def isZero (x : Binary64) : Bool := x.magnitude == 0

/-- The quiet pattern that is no number, of either sign. -/
def nan (negative : Bool) : Binary64 := ofParts negative (infinityBits + binade / 2)

/-- An infinity. -/
def infinity (negative : Bool) : Binary64 := ofParts negative infinityBits

/-- A zero, of either sign. -/
def zero (negative : Bool) : Binary64 := ofParts negative 0

/-- The exponent of the unit: the value is `significand` times two to this power. -/
def unitExponent (x : Binary64) : Int :=
  (max (x.magnitude / binade) 1 : Nat) - 1075

/-- The number of units in the absolute value. -/
def significand (x : Binary64) : Nat :=
  if x.magnitude < binade then x.magnitude else x.magnitude % binade + binade

/-- Two doubles are equal as numbers: zeros of both signs are, and nothing that is
no number is. -/
def sameNumber (x y : Binary64) : Bool :=
  !x.isNaN && !y.isNaN && (x == y || (x.isZero && y.isZero))

/-- The quotient of two naturals, to the nearest natural; a tie goes to the even
one. -/
def roundQuotient (num den : Nat) : Nat :=
  let q := num / den
  let twice := 2 * (num % den)
  if twice < den then q
  else if den < twice then q + 1
  else q + q % 2

/-- Numerator and denominator of `num / den` times two to a power. -/
def scale (num den : Nat) (power : Int) : Nat × Nat :=
  if 0 ≤ power then (num * Nat.pow 2 power.toNat, den)
  else (num, den * Nat.pow 2 (-power).toNat)

/-- The exponent of the largest power of two that is at most `num / den`. -/
def floorLog2 (num den : Nat) : Int :=
  let guess : Int := (num.log2 : Int) - (den.log2 : Int)
  let (n, d) := scale num den (-guess)
  if d ≤ n then guess else guess - 1

/-- The 63 bits of the double nearest to `num / den`, without the cut at infinity. -/
def nearestMagnitude (num den : Nat) : Nat :=
  let unit : Int := max (floorLog2 num den - 52) (-1074)
  let (n, d) := scale num den (-unit)
  (unit + 1074).toNat * binade + roundQuotient n d

/-- The double nearest to `num / den`, or nothing where that is an infinity. -/
def ofRatio? (negative : Bool) (num den : Nat) : Option Binary64 :=
  if num = 0 then some (zero negative)
  else
    let m := nearestMagnitude num den
    if m < infinityBits then some (ofParts negative m) else none

/-- The double nearest to `num / den`, an infinity past the largest double. -/
def ofRatio (negative : Bool) (num den : Nat) : Binary64 :=
  (ofRatio? negative num den).getD (infinity negative)

/-- The double nearest to a natural number, or nothing where it is too large. -/
def ofNat? (n : Nat) : Option Binary64 := ofRatio? false n 1

/-- The double nearest to `digits` times ten to a power. Powers that put any
nonzero number past the largest double or below half the smallest one are
answered without forming the power. -/
def ofDecimal (negative : Bool) (digits : Nat) (power : Int) : Binary64 :=
  if digits = 0 then zero negative
  else if 400 < power then infinity negative
  else if power + digits.log2 + 1 < -400 then zero negative
  else if 0 ≤ power then ofRatio negative (digits * Nat.pow 10 power.toNat) 1
  else ofRatio negative digits (Nat.pow 10 (-power).toNat)

/-- The double is an integer; infinities are not. -/
def isIntegral (x : Binary64) : Bool :=
  decide (x.magnitude < infinityBits) &&
    (decide (0 ≤ x.unitExponent) || x.significand % Nat.pow 2 (-x.unitExponent).toNat == 0)

/-- A finite double is below an integer. -/
def ltInt (x : Binary64) (k : Int) : Bool :=
  let num : Int := if x.negative then -(x.significand : Int) else x.significand
  if x.isNaN then false
  else if x.isInfinite then x.negative
  else if 0 ≤ x.unitExponent then decide (num * Nat.pow 2 x.unitExponent.toNat < k)
  else decide (num < k * Nat.pow 2 (-x.unitExponent).toNat)

/-- A double is the given integer, exactly. -/
def eqInt (x : Binary64) (k : Int) : Bool :=
  let num : Int := if x.negative then -(x.significand : Int) else x.significand
  if x.isNaN || x.isInfinite then false
  else if 0 ≤ x.unitExponent then num * Nat.pow 2 x.unitExponent.toNat == k
  else num == k * Nat.pow 2 (-x.unitExponent).toNat

example : ofDecimal false 1 0 = ⟨0x3FF0000000000000⟩ := by decide +kernel
example : ofDecimal false 49 (-325) = ⟨1⟩ := by decide +kernel
example : ofDecimal false 9007199254740993 0 = ofDecimal false 9007199254740992 0 := by
  decide +kernel

end Binary64

end CodeSmell
