/-
Classes of characters given by tables of code point ranges.

A Unicode property such as "decimal digit" or "printable" has no formula; it is
a list of ranges. This file says what it means for a character to fall into such
a list, once, so that each property module only holds its own table.
-/
set_option autoImplicit false

namespace CodeSmell.Text

/-- A closed range of code points. -/
structure CharRange where
  low : Nat
  high : Nat
  deriving DecidableEq, Repr

namespace CharRange

/-- The code point lies between both ends of the range, ends included. -/
def holds (r : CharRange) (c : Char) : Bool :=
  decide (r.low ≤ c.toNat) && decide (c.toNat ≤ r.high)

/-- The character lies in one of the ranges of the table. -/
def inTable (table : List CharRange) (c : Char) : Bool :=
  table.any (·.holds c)

end CharRange

/-- A table written as pairs of first and last code point. -/
def rangesOf (pairs : List (Nat × Nat)) : List CharRange :=
  pairs.map fun (low, high) => ⟨low, high⟩

end CodeSmell.Text
