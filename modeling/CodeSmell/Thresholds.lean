/-
Limits above which a construct is reported.

Every limit is exceeded only by something strictly greater. The numbers that are
never reported are compared as numbers, so minus zero is exempt with zero.
-/
import CodeSmell.Number.Binary64

set_option autoImplicit false

namespace CodeSmell

/-- A number that is exempt from reporting: an integer of any size, or a double. -/
inductive ExemptNumber where
  | integer (n : Int)
  | double (x : Binary64)
  deriving DecidableEq, Repr

/-- The double is that number. -/
def ExemptNumber.isValue (x : Binary64) : ExemptNumber → Bool
  | integer n => x.eqInt n
  | double y => x.sameNumber y

/-- The limits of the rules. -/
structure Thresholds where
  maxParameters : Int
  maxMethods : Int
  maxClassLines : Int
  maxNestingDepth : Int
  exemptNumbers : List ExemptNumber
  deriving DecidableEq, Repr

namespace Thresholds

/-- The limits that are built in. -/
def standard : Thresholds :=
  { maxParameters := 3
    maxMethods := 20
    maxClassLines := 300
    maxNestingDepth := 4
    exemptNumbers := [.integer 0, .integer 1, .integer (-1)] }

/-- The number is exempt. -/
def exempts (t : Thresholds) (x : Binary64) : Bool := t.exemptNumbers.any (·.isValue x)

end Thresholds

end CodeSmell
