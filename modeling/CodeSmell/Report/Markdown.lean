/-
Reports as Markdown.

A heading with the name of the source, three lines about it, a table of how many
findings each grade has, a table of the findings in the order of the report, and
a list of the rules that failed. A cell of a table may hold any text: a pipe is
escaped, and a line feed becomes a blank.
-/
import CodeSmell.Report.Basic

set_option autoImplicit false

namespace CodeSmell.Markdown

/-- A character in a cell of a table. -/
def escapeChar (c : Char) : List Char :=
  if c = '|' then ['\\', '|']
  else if c = '\n' then [' ']
  else [c]

/-- A text in a cell of a table. -/
def escapeCell (s : String) : String := String.ofList (s.toList.flatMap escapeChar)

/-- A row of the table of findings. -/
def findingRow (number : Nat) (f : Finding) : String :=
  s!"| {number} | {f.line} | {f.severity.capitals} | {escapeCell f.name} "
    ++ s!"| {escapeCell f.description} | {escapeCell f.message} |"

/-- The rows for findings that are counted from `number` on. -/
def findingRows (number : Nat) : List Finding → List String
  | [] => []
  | f :: rest => findingRow number f :: findingRows (number + 1) rest

/-- The number of findings of a grade. -/
def severityCount (findings : List Finding) (s : Severity) : Nat :=
  findings.countP (·.severity = s)

/-- The rows of the table of grades: a row for each grade that occurs, gravest
first. -/
def severityRows (findings : List Finding) : List String :=
  (Severity.all.filter fun s => severityCount findings s ≠ 0).map fun s =>
    s!"| {s.capitals} | {severityCount findings s} |"

/-- The lines above the findings. -/
def headLines (r : Report) : List String :=
  let title :=
    match r.filename with
    | some name => if name.isEmpty then "source" else name
    | none => "source"
  ["# Smell Report: " ++ title,
   "",
   s!"**Variant:** {r.variant.text}  ",
   s!"**Lines:** {r.totalLines}  ",
   s!"**Issues Found:** {r.count}",
   ""]

/-- The heading of the table of findings. -/
def findingHeader : List String :=
  ["| # | Line | Severity | Pattern | Description | Suggestion |",
   "|--:|-----:|----------|---------|-------------|------------|"]

/-- The lines about findings. -/
def findingLines (findings : List Finding) : List String :=
  if findings.isEmpty then ["No issues found.", ""]
  else
    ["## By Severity", "", "| Severity | Count |", "|----------|------:|"]
      ++ severityRows findings
      ++ ["", "## Findings", ""]
      ++ findingHeader
      ++ findingRows 1 findings
      ++ [""]

/-- The lines about rules that failed. -/
def diagnosticLines (diagnostics : List Diagnostic) : List String :=
  if diagnostics.isEmpty then []
  else
    ["## Diagnostics", ""]
      ++ (diagnostics.map fun d =>
        "- `" ++ d.ruleId ++ "` " ++ s!"skipped {d.nodeKind} at line {d.line}: {d.error}")
      ++ [""]

/-- The lines of a report, in order. -/
def lines (r : Report) : List String :=
  headLines r ++ findingLines r.findings ++ diagnosticLines r.diagnostics
    ++ ["---", s!"*Exported by smell-audit {r.version}*", ""]

/-- The report as Markdown. -/
def render (r : Report) : String := "\n".intercalate (lines r)

end CodeSmell.Markdown
