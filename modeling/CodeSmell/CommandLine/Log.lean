/-
What is logged on the way to a report.

Warnings are always shown, as they are. The rest is shown only on request, and
then every line names how grave it is and which part of the tool it comes from.
-/
import CodeSmell.Analysis

set_option autoImplicit false

namespace CodeSmell.CommandLine

/-- Something that is logged. -/
inductive Event where
  | reading (path : String)
  | ruleFailed (warning : String)
  | unparsable (failure : ParseFailure)
  | analyzed (report : Report)

namespace Event

/-- What the source is called in the log. -/
def sourceName (filename : Option String) : String :=
  match filename with
  | some name => if name.isEmpty then "<source>" else name
  | none => "<source>"

/-- The event in full. -/
def record : Event → String
  | reading path => "DEBUG smell_audit.core.intake: Reading " ++ path
  | ruleFailed warning => "WARNING smell_audit.core.walker: " ++ warning
  | unparsable f =>
    s!"DEBUG smell_audit.core.parser: Parse failed ({f.variant}) at {f.line}:{f.column}: {f.detail}"
  | analyzed r =>
    s!"DEBUG smell_audit.api: Analyzed {sourceName r.filename} as {r.variant.text}: "
      ++ s!"{r.count} finding(s), {r.diagnostics.length} diagnostic(s)"

/-- The line of an event, if it is shown. -/
def line? (verbose : Bool) (e : Event) : Option String :=
  if verbose then some e.record
  else
    match e with
    | ruleFailed warning => some warning
    | _ => none

/-- What is logged when a source is analysed. -/
def ofAnalysis : Except AnalysisError Report → List Event
  | .ok r => r.diagnostics.map (fun d => ruleFailed d.warning) ++ [analyzed r]
  | .error (.unparsable failure) => [unparsable failure]
  | .error (.description _) => []

end Event

end CodeSmell.CommandLine
