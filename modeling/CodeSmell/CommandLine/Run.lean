/-
Running the tool.

A source is a file or the standard input. If there is a report on it, the tool ends
with the status that says whether anything was found. If there is none, a line
says why, nothing is put out, no file is touched, and the status is that of an
error. Files of reports are made with the folders that they stand in; where that
fails, and where a path cannot be one, the failure is not the tool's to report and
ends it.
-/
import CodeSmell.CommandLine.Invocation
import CodeSmell.CommandLine.Log
import CodeSmell.ExitStatus
import CodeSmell.Intake.Source
import CodeSmell.Report.Summary

set_option autoImplicit false

namespace CodeSmell.CommandLine

/-- What the tool runs in. -/
structure World (m : Type → Type) where
  disk : Disk m
  /-- The bytes of the standard input. -/
  input : m (Except FileError ByteArray)
  parser : SourceParser

/-- Why there is no report. -/
inductive Refusal where
  | source (error : SourceError)
  | analysis (error : AnalysisError)
  deriving DecidableEq, Repr

/-- What came of looking for a report, with what was logged. -/
structure Attempt where
  events : List Event
  result : Except Refusal Report

/-- A failure that ends the tool without a status. -/
inductive Escape where
  | file (error : FileError)
  | description (error : TemplateError)
  deriving DecidableEq, Repr

/-- The wording of the failure. -/
def Escape.message : Escape → String
  | file e => e.message
  | description e => e.message

/-- How a run of the tool ends, and what it put out. -/
structure Outcome where
  ending : Except Escape ExitStatus
  output : String
  errors : String

/-! ## Reports on sources -/

/-- The limits that the tool is run with. -/
def limits : IntakeLimits := {}

/-- The report on a source that was read. -/
def attemptText (parser : SourceParser) (source : String) (filename : Option String) : Attempt :=
  let result := analyze parser source filename Catalogue.standard
  ⟨Event.ofAnalysis result, result.mapError .analysis⟩

/-- The report on a source that was given apart from a file, if it is not refused. -/
def attemptGiven (parser : SourceParser) (source : String) (filename : Option String) : Attempt :=
  match limits.checkText source filename with
  | .error e => ⟨[], .error (.source (.refused e))⟩
  | .ok () => attemptText parser source filename

/-- The report on bytes that came as standard input. -/
def attemptInput (parser : SourceParser) (bytes : ByteArray) (filename : Option String) : Attempt :=
  match Encoding.text "utf-8" bytes.toList with
  | .error e => ⟨[], .error (.source (.undecodable e))⟩
  | .ok source => attemptGiven parser source filename

variable {m : Type → Type} [Monad m]

/-- The report on the file at a path. -/
def attemptFile (w : World m) (path : Path) : m Attempt := do
  match ← (w.disk.acceptedSize limits path).run with
  | .error e => return ⟨[], .error (.source e)⟩
  | .ok _ =>
    match ← (w.disk.text limits.encoding path).run with
    | .error e => return ⟨[.reading path.text], .error (.source e)⟩
    | .ok source =>
      let attempt := attemptText w.parser source (some path.name)
      return { attempt with events := .reading path.text :: attempt.events }

/-- The report on a target: a file, or the standard input where it is a hyphen. -/
def attempt (w : World m) (target : String) (filename : Option String) : m Attempt := do
  if target = "-" then
    match ← w.input with
    | .error e => return ⟨[], .error (.source (.unreadable e))⟩
    | .ok bytes => return attemptInput w.parser bytes filename
  else attemptFile w (Path.ofText target)

/-! ## Reports that there are not -/

/-- What a source that could not be analysed is called. -/
def sourceLabel (target : String) (filename : Option String) : String :=
  match filename with
  | some name => if name.isEmpty then target else name
  | none => target

/-- The line that says why there is no report. -/
def refusalLine (target : String) (filename : Option String) : Refusal → Except Escape String
  | .analysis (.unparsable failure) =>
    .ok ("error: could not analyze " ++ sourceLabel target filename ++ ": " ++ failure.message)
  | .analysis (.description e) => .error (.description e)
  | .source (.refused e) => .ok ("error: " ++ e.message)
  | .source (.unreadable e) =>
    -- No machine was asked about such a path, so it is not the machine's refusal.
    if e.fault = .zeroInPath then .error (.file e)
    else .ok ("error: cannot read " ++ target ++ ": " ++ e.message)
  | .source (.undecodable e) => .ok ("error: cannot read " ++ target ++ ": " ++ e.message)

/-- The lines of a log that are shown. -/
def logText (verbose : Bool) (events : List Event) : String :=
  linesText (events.filterMap (Event.line? verbose))

/-- The outcome where there is no report. -/
def refuse (log target : String) (filename : Option String) (r : Refusal) : Outcome :=
  match refusalLine target filename r with
  | .ok line => ⟨.ok .error, "", log ++ linesText [line]⟩
  | .error escape => ⟨.error escape, "", log⟩

/-! ## Commands -/

/-- The status for a report. -/
def statusOf (r : Report) : ExitStatus := if r.findings.isEmpty then .success else .violation

/-- Sums up what is found in a source. -/
def inspect (w : World m) (verbose : Bool) (target : String) (filename : Option String)
    (json : Bool) : m Outcome := do
  let a ← attempt w target filename
  let log := logText verbose a.events
  match a.result with
  | .error r => return refuse log target filename r
  | .ok report =>
    return {
      ending := .ok (statusOf report)
      output := if json then report.exportJson Json.reportIndent else ""
      errors := log ++ linesText (Summary.lines report) }

/-- Writes a text to a file, with the folders that it stands in. -/
def save (w : World m) (path : Path) (text : String) : m (Except FileError Unit) := do
  match ← w.disk.makeFolder path.parent with
  | .error e => return .error e
  | .ok () => w.disk.write path text.toUTF8

/-- Exports the report on a source. -/
def render (w : World m) (verbose : Bool) (target : String) (filename : Option String)
    (format : ExportFormat) (output : Option Path) : m Outcome := do
  let a ← attempt w target filename
  let log := logText verbose a.events
  match a.result with
  | .error r => return refuse log target filename r
  | .ok report =>
    let text := report.exportAs format
    match output with
    | none => return ⟨.ok (statusOf report), text, log⟩
    | some path =>
      match ← save w path text with
      | .error e => return ⟨.error (.file e), "", log⟩
      | .ok () => return ⟨.ok (statusOf report), "", log ++ linesText ["Wrote " ++ path.text]⟩

/-- The line of a rule in the list. -/
def ruleLine (r : RuleInfo) : String :=
  s!"{Summary.padded 20 r.id} {Summary.padded 7 r.severity.text} {r.name}"

/-- The list of the rules. -/
def ruleList (json : Bool) : String :=
  if json then (Json.arr (Catalogue.infos.map RuleInfo.toJson)).render Json.reportIndent
  else linesText (Catalogue.infos.map ruleLine)

/-- What is said where there is nothing to do. -/
def idleLine : String := "error: please provide a file or use a subcommand."

/-- The outcome where the reading of the command line stops. -/
def stopped : Stop → Outcome
  | .answered text => ⟨.ok .success, text, ""⟩
  | .misused usage program misuse =>
    ⟨.ok .error, "", usage ++ linesText [program ++ ": error: " ++ misuse.message]⟩

/-- Runs a command. -/
def perform (w : World m) (i : Invocation) : m Outcome :=
  match i.command with
  | .idle => pure ⟨.ok .error, "", linesText [idleLine]⟩
  | .inspect target filename json => inspect w i.verbose target filename json
  | .render target filename format output => render w i.verbose target filename format output
  | .listRules json => pure ⟨.ok .success, ruleList json, ""⟩

/-- Runs the tool with the arguments of a command line. -/
def run (w : World m) (arguments : List String) : m Outcome :=
  match Invocation.read arguments with
  | .error stop => pure (stopped stop)
  | .ok i => perform w i

end CodeSmell.CommandLine
