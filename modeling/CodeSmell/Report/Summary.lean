/-
A report in a few lines, for people.

The number of findings and the name of the source come first, then how many
findings each grade has, a line for each finding, and the rules that failed. The
lines begin and end with an empty one.
-/
import CodeSmell.Report.Markdown

set_option autoImplicit false

namespace CodeSmell.Summary

/-- The text with blanks behind it up to a width. -/
def padded (width : Nat) (s : String) : String :=
  s ++ String.ofList (List.replicate (width - s.toList.length) ' ')

/-- The grade in four characters. -/
def tag : Severity → String
  | .high => "HIGH"
  | .medium => "MED "
  | .low => "LOW "

/-- What the source is called. -/
def label (filename : Option String) : String :=
  match filename with
  | some name => if name.isEmpty then "<stdin>" else name
  | none => "<stdin>"

/-- How many findings each grade has, for the grades that occur. -/
def severityCounts (findings : List Finding) : List String :=
  (Severity.all.filter fun s => Markdown.severityCount findings s ≠ 0).map fun s =>
    s!"{s.text}={Markdown.severityCount findings s}"

/-- The line of a finding. -/
def findingLine (f : Finding) : String :=
  s!"   L{padded 5 (integerText f.line)} [{tag f.severity}] {f.name}: {f.description}"

/-- The lines about rules that failed. -/
def diagnosticLines (diagnostics : List Diagnostic) : List String :=
  if diagnostics.isEmpty then []
  else
    s!"   {diagnostics.length} rule evaluation(s) skipped:"
      :: diagnostics.map fun d => s!"      • {d.ruleId} on {d.nodeKind} at line {d.line}"

/-- The lines of the summary. -/
def lines (r : Report) : List String :=
  ["", s!"{r.count} issue(s) found in {label r.filename} ({r.variant.text})"]
    ++ (if r.findings.isEmpty then []
        else ["   Severity : " ++ ", ".intercalate (severityCounts r.findings)])
    ++ r.findings.map findingLine
    ++ diagnosticLines r.diagnostics
    ++ [""]

end CodeSmell.Summary
