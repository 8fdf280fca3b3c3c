/-
How grave a smell is. The grade belongs to the rule; it is never computed from
what the rule measured.
-/
set_option autoImplicit false

namespace CodeSmell

/-- The grade of a rule. -/
inductive Severity where
  | high
  | medium
  | low
  deriving DecidableEq, Repr, Inhabited

namespace Severity

/-- The grade as reports write it. -/
def text : Severity → String
  | high => "high"
  | medium => "medium"
  | low => "low"

/-- The grade in capitals. -/
def capitals : Severity → String
  | high => "HIGH"
  | medium => "MEDIUM"
  | low => "LOW"

/-- The grade of a word. -/
def ofText? (s : String) : Option Severity :=
  if s = "high" then some high
  else if s = "medium" then some medium
  else if s = "low" then some low
  else none

/-- What is said about a value, given as messages show it, that is no grade. -/
def unknownMessage (shown : String) : String := shown ++ " is not a valid Severity"

/-- All grades, gravest first. -/
def all : List Severity := [high, medium, low]

end Severity

end CodeSmell
