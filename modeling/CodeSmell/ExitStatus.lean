/-
How a command ends: nothing found, something found, or no answer.
-/
set_option autoImplicit false

namespace CodeSmell

/-- The status a command ends with. -/
inductive ExitStatus where
  /-- The source was analysed and nothing was found. -/
  | success
  /-- The source was analysed and something was found. -/
  | violation
  /-- The source was not analysed. -/
  | error
  deriving DecidableEq, Repr, Inhabited

namespace ExitStatus

/-- The number of the status. -/
def code : ExitStatus → Nat
  | success => 0
  | violation => 1
  | error => 2

/-- The status in capitals. -/
def capitals : ExitStatus → String
  | success => "SUCCESS"
  | violation => "VIOLATION"
  | error => "ERROR"

/-- The status of a number. -/
def ofCode? (n : Int) : Option ExitStatus :=
  if n = 0 then some success
  else if n = 1 then some violation
  else if n = 2 then some error
  else none

/-- What is said about a value, given as messages show it, that is no status. -/
def unknownMessage (shown : String) : String := shown ++ " is not a valid ExitCode"

end ExitStatus

end CodeSmell
