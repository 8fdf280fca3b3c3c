/-
Reports: the result of analysing one source.

A report holds the findings in the order of the walk and the rules that failed on
the way. The count is the number of findings and is not kept apart from them.
-/
import CodeSmell.Report.Finding
import CodeSmell.Syntax.Variant

set_option autoImplicit false

namespace CodeSmell

/-- The version of the tool. -/
def toolVersion : String := "0.1.0"

/-- The version of the form of reports. -/
def schemaVersion : String := "analysis_report_v1"

/-- The result of analysing one source. -/
structure Report where
  findings : List Finding
  variant : Variant
  filename : Option String
  totalLines : Int
  diagnostics : List Diagnostic
  version : String
  deriving DecidableEq, Repr

namespace Report

/-- The number of findings. -/
def count (r : Report) : Nat := r.findings.length

/-- An optional text as JSON. -/
def optionalText : Option String → Json
  | some s => .str s
  | none => .null

/-- The report as a JSON object. -/
def toJson (r : Report) : Json :=
  .obj
    [("schema_version", .str schemaVersion),
     ("tool_version", .str r.version),
     ("source", .obj
       [("filename", optionalText r.filename), ("variant", .str r.variant.text),
        ("total_lines", .int r.totalLines)]),
     ("count", .int r.count),
     ("findings", .arr (r.findings.map Finding.toJson)),
     ("diagnostics", .arr (r.diagnostics.map Diagnostic.toJson))]

end Report

end CodeSmell
