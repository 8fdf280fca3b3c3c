/-
The schema of reports.

Every report that the tool writes keeps to this schema, and whoever reads reports
may rely on it: the six fields at the top are always there and there are no
others, lines are counted from one, and a finding names one of the rules that are
built in.
-/
import CodeSmell.Catalogue
import CodeSmell.Intake.Files
import CodeSmell.Intake.Encoding
import CodeSmell.Json.Reader
import CodeSmell.Report.Basic
import CodeSmell.Schema.Violation

set_option autoImplicit false

namespace CodeSmell

/-- The schema of findings. -/
def Finding.schema : Schema := .record
  [("id", .oneOf (Catalogue.infos.map (·.id))),
   ("name", .text true),
   ("description", .text true),
   ("line", .integer 1),
   ("message", .text true),
   ("severity", .oneOf (Severity.all.map (·.text)))]

/-- The schema of diagnostics. -/
def Diagnostic.schema : Schema := .record
  [("rule_id", .text false),
   ("node_type", .text false),
   ("line", .integer 1),
   ("error", .text false)]

namespace Report

/-- The schema of reports. -/
def schema : Schema := .record
  [("schema_version", .exactly schemaVersion),
   ("tool_version", .text false),
   ("source", .record
     [("filename", .textOrNull),
      ("variant", .oneOf [Variant.typescript.text, Variant.tsx.text]),
      ("total_lines", .integer 1)]),
   ("count", .integer 0),
   ("findings", .list "finding" Finding.schema),
   ("diagnostics", .list "diagnostic" Diagnostic.schema)]

/-- The name of the file that the schema is written in. -/
def schemaName : String := "analysis_report.schema.json"

/-- Checks a JSON value against the schema of reports. -/
def validate (j : Json) : Except Violation Unit := schema.check j

end Report

/-! ## Schemas by name -/

/-- A name that no schema has. -/
structure UnknownSchema where
  name : String
  deriving DecidableEq, Repr

/-- The wording of the error. -/
def UnknownSchema.message (e : UnknownSchema) : String := "schema not found: " ++ e.name

/-- The schema of a name, which is read as a path. -/
def Schema.named (name : String) : Except UnknownSchema Schema :=
  if Path.ofText name = Path.ofText Report.schemaName then .ok Report.schema
  else .error ⟨name⟩

/-- The written schema of a name. -/
def Schema.documentNamed (name : String) : Except UnknownSchema Json :=
  (Schema.named name).map fun s => s.document Report.schemaName "AnalysisReport"

/-! ## Checking files -/

/-- Why a file does not pass for a report. -/
inductive ReportFileError where
  | unreadable (error : FileError)
  | undecodable (error : DecodeError)
  | notJson (fault : Json.SyntaxFault)
  | unknownSchema (error : UnknownSchema)
  | violation (v : Violation)

/-- Checks the text of a file against the schema of a name. The text is read before
the schema is looked for. A half of a surrogate pair is shown in what is checked; the
schema asks for no text that holds one, nor for one that holds what it is shown as. -/
def Schema.checkText (name text : String) : Except ReportFileError Unit := do
  let j ← (Json.parse text.toList).mapError .notJson
  let s ← (Schema.named name).mapError .unknownSchema
  (s.check j).mapError .violation

/-- Checks the file at a path against the schema of a name. -/
def Disk.checkReport {m : Type → Type} [Monad m] (d : Disk m) (path : Path) (schema : String) :
    m (Except ReportFileError Unit) := do
  match ← d.read path with
  | .error e => return .error (.unreadable e)
  | .ok bytes =>
    match Encoding.text "utf-8" bytes.toList with
    | .error e => return .error (.undecodable e)
    | .ok text => return Schema.checkText schema text

end CodeSmell
