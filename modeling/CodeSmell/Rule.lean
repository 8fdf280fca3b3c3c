/-
Rules.

A rule looks at one node at a time, with the nodes around it, and says nothing,
reports what it saw, or fails. It never looks for other rules' results. What is
fixed about a rule stands in its metadata, which every report of the rule
carries along; the description is a template that the facts of the report fill
in.
-/
import CodeSmell.Severity
import CodeSmell.Syntax.Node
import CodeSmell.Template

set_option autoImplicit false

namespace CodeSmell

/-- A node under visit, with the nodes around it, nearest first. -/
structure Visit where
  node : SyntaxNode
  ancestors : List SyntaxNode

/-- The node directly around the visited one. -/
def Visit.parent? (v : Visit) : Option SyntaxNode := v.ancestors.head?

/-- How a rule fails. -/
inductive RuleFault where
  | badValue (text : String)
  | overflow (text : String)
  | divisionByZero (text : String)
  | missingKey (key : String)
  | runtime (text : String)
  /-- Any other failure, by its name. -/
  | other (name text : String)
  deriving DecidableEq, Repr

namespace RuleFault

/-- The name of the fault in diagnostics. -/
def label : RuleFault → String
  | badValue _ => "ValueError"
  | overflow _ => "OverflowError"
  | divisionByZero _ => "ZeroDivisionError"
  | missingKey _ => "KeyError"
  | runtime _ => "RuntimeError"
  | other name _ => name

/-- The detail of the fault; a key is quoted. -/
def detail : RuleFault → String
  | badValue text => text
  | overflow text => text
  | divisionByZero text => text
  | missingKey key => Text.quoted key
  | runtime text => text
  | other _ text => text

/-- The fault in one phrase. -/
def describe (f : RuleFault) : String := f.label ++ ": " ++ f.detail

end RuleFault

/-- What is fixed about a rule. -/
structure RuleInfo where
  id : String
  name : String
  severity : Severity
  /-- The template for descriptions. -/
  description : String
  message : String
  deriving DecidableEq, Repr

/-- A report about a node: the rule it is of, the row, and facts for the description. -/
structure Detection where
  rule : RuleInfo
  row : Int
  facts : Facts

/-- A rule. -/
structure Rule extends RuleInfo where
  evaluate : Visit → Except RuleFault (Option Detection)

/-- A rule that failed on a node. -/
structure Diagnostic where
  ruleId : String
  nodeKind : String
  line : Int
  error : String
  deriving DecidableEq, Repr

/-- The warning about a failed rule. -/
def Diagnostic.warning (d : Diagnostic) : String :=
  s!"rule {Text.quoted d.ruleId} failed on {d.nodeKind} at line {d.line}: {d.error}"

/-- What comes of showing a rule a node. -/
inductive RuleOutcome where
  | silent
  | detected (d : Detection)
  | failed (d : Diagnostic)

/-- Shows a rule a node. A failure stays with the rule and the node. -/
def Rule.outcome (r : Rule) (v : Visit) : RuleOutcome :=
  match r.evaluate v with
  | .ok none => .silent
  | .ok (some d) => .detected d
  | .error fault => .failed ⟨r.id, v.node.kind, v.node.line, fault.describe⟩

end CodeSmell
