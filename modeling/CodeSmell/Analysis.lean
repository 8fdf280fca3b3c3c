/-
Analysing a source.

The grammar is chosen by the file name, the source becomes a tree, the rules walk
over the tree, and their detections become findings. A source without a tree that
can be trusted has no report: that it could not be analysed is never shown as a
report without findings. A description that cannot be filled in stops the
analysis too, at the first detection it belongs to. Nothing else depends on how
descriptions are filled in, so that is left open first.
-/
import CodeSmell.Report.Basic
import CodeSmell.Syntax.Soundness
import CodeSmell.Text.Line
import CodeSmell.Walk

set_option autoImplicit false

namespace CodeSmell

/-- Why a source has no report. -/
inductive AnalysisError (ε : Type := TemplateError) where
  | unparsable (failure : ParseFailure)
  | description (error : ε)
  deriving DecidableEq, Repr

namespace AnalysisError

/-- The wording of the error. -/
def message : AnalysisError → String
  | unparsable failure => failure.message
  | description error => error.message

end AnalysisError

/-- The report on a tree, with descriptions filled in by `fill`. -/
def Report.ofTreeWith {ε : Type} (fill : Template.Filler ε) (source : String)
    (filename : Option String) (rules : List Rule) (tree : SyntaxNode) : Except ε Report := do
  let walked := walk tree rules
  let findings ← Finding.ofDetectionsWith fill walked.detections.toList
  return {
    findings := findings
    variant := Variant.forFilename filename
    filename := filename
    totalLines := Text.lineCount source
    diagnostics := walked.diagnostics.toList
    version := toolVersion }

/-- The report on a tree. -/
def Report.ofTree (source : String) (filename : Option String) (rules : List Rule)
    (tree : SyntaxNode) : Except TemplateError Report :=
  Report.ofTreeWith Template.fill source filename rules tree

theorem Report.ofTree_eq (source : String) (filename : Option String) (rules : List Rule)
    (tree : SyntaxNode) :
    Report.ofTree source filename rules tree = do
      let findings ← Finding.ofDetections (walk tree rules).detections.toList
      return {
        findings := findings
        variant := Variant.forFilename filename
        filename := filename
        totalLines := Text.lineCount source
        diagnostics := (walk tree rules).diagnostics.toList
        version := toolVersion } :=
  rfl

/-- The report on a source, with descriptions filled in by `fill`. -/
def analyzeWith {ε : Type} (fill : Template.Filler ε) (parser : SourceParser) (source : String)
    (filename : Option String) (rules : List Rule) : Except (AnalysisError ε) Report := do
  let tree ← (parser.tree (Variant.forFilename filename) source).mapError .unparsable
  (Report.ofTreeWith fill source filename rules tree).mapError .description

/-- The report on a source. -/
def analyze (parser : SourceParser) (source : String) (filename : Option String)
    (rules : List Rule) : Except AnalysisError Report :=
  analyzeWith Template.fill parser source filename rules

end CodeSmell
