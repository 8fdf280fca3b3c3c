/-
Findings: what a caller is told about one smell.

A finding is a detection with its description filled in and its row counted from
one. Everything else is copied from the rule. How a description is filled in is left
open first; the findings that callers are told about have theirs filled in as
`Template` says.
-/
import CodeSmell.Rule

set_option autoImplicit false

namespace CodeSmell

/-- One smell, as callers see it. Its `id` names the rule. -/
structure Finding where
  id : String
  name : String
  description : String
  line : Int
  message : String
  severity : Severity
  deriving DecidableEq, Repr

namespace Finding

/-- The finding of a detection, with its description filled in by `fill`. -/
def ofDetectionWith {ε : Type} (fill : Template.Filler ε) (d : Detection) :
    Except ε Finding := do
  let description ← fill d.rule.description d.facts
  return {
    id := d.rule.id
    name := d.rule.name
    description := description
    line := d.row + 1
    message := d.rule.message
    severity := d.rule.severity }

/-- The findings of detections, in their order, or the first error among them. -/
def ofDetectionsWith {ε : Type} (fill : Template.Filler ε) (ds : List Detection) :
    Except ε (List Finding) :=
  ds.mapM (ofDetectionWith fill)

/-- The finding of a detection. -/
def ofDetection (d : Detection) : Except TemplateError Finding :=
  ofDetectionWith Template.fill d

/-- The findings of detections, in their order, or the first error among them. -/
def ofDetections (ds : List Detection) : Except TemplateError (List Finding) :=
  ofDetectionsWith Template.fill ds

theorem ofDetections_cons (d : Detection) (ds : List Detection) :
    ofDetections (d :: ds) = do
      let f ← ofDetection d
      let fs ← ofDetections ds
      return f :: fs :=
  List.mapM_cons

/-- The finding as a JSON object. -/
def toJson (f : Finding) : Json :=
  .obj
    [("id", .str f.id), ("name", .str f.name), ("description", .str f.description),
     ("line", .int f.line), ("message", .str f.message), ("severity", .str f.severity.text)]

end Finding

/-- The diagnostic as a JSON object. -/
def Diagnostic.toJson (d : Diagnostic) : Json :=
  .obj
    [("rule_id", .str d.ruleId), ("node_type", .str d.nodeKind), ("line", .int d.line),
     ("error", .str d.error)]

/-- The part of a rule that is listed for readers. -/
def RuleInfo.toJson (r : RuleInfo) : Json :=
  .obj
    [("id", .str r.id), ("name", .str r.name), ("severity", .str r.severity.text),
     ("message", .str r.message)]

end CodeSmell
