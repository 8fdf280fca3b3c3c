/-
The forms a report can be exported in, by name.
-/
import CodeSmell.Json.Printer
import CodeSmell.Report.Markdown

set_option autoImplicit false

namespace CodeSmell

/-- The form of an exported report. -/
inductive ExportFormat where
  | json
  | markdown
  deriving DecidableEq, Repr

namespace ExportFormat

/-- The names of the forms. -/
def names : List String := ["json", "markdown"]

/-- The form of a name. -/
def ofName? (s : String) : Option ExportFormat :=
  if s = "json" then some json
  else if s = "markdown" then some markdown
  else none

/-- What is said about a name that is no form. -/
def unknownMessage (s : String) : String :=
  "unknown export format: " ++ Text.quoted s
    ++ " (expected one of (" ++ Text.quotedList names ++ "))"

end ExportFormat

namespace Report

/-- The report as JSON text. -/
def exportJson (r : Report) (indent : Option Nat) : String := r.toJson.render indent

/-- The report in a form. -/
def exportAs (r : Report) : ExportFormat → String
  | .json => r.exportJson Json.reportIndent
  | .markdown => Markdown.render r

end Report

end CodeSmell
