/-
The tree of a source.

Here the circle of the rules is closed: a rule called from within a rule is one
level further in, and the number of levels is bounded by the length of the source,
since only a few rules can follow each other before a token is taken.

Comments stand wherever blanks may. They are gathered on the way and put into the
tree at the end, each into the innermost node around it. A source that is refused
becomes a program with an error in it, at the place where reading stopped.
-/
import CodeSmell.Grammar.Linkage
import CodeSmell.Syntax.Soundness

set_option autoImplicit false

namespace CodeSmell.Grammar

open Reader

/-- The rule for a goal, with the rules one level further in. -/
def rule (inner : Rules) : Goal → Reader SyntaxNode
  | .statement => statement inner
  | .block => block inner
  | .expression allowIn => expression inner allowIn
  | .assignment allowIn inConditional => assignment inner allowIn inConditional
  | .unary => unary inner
  | .operand => operand inner
  | .creation => creation inner
  | .type conditional => type inner conditional
  | .typeOperand conditional => typeOperand inner conditional
  | .pattern => pattern inner
  | .element => element inner

/-- The rules, up to a number of levels. -/
def rules : Nat → Rules
  | 0 => fun _ => refuse
  | levels + 1 => rule (rules levels)

/-! ## Comments -/

/-- The first byte of a node. -/
def firstByte (n : SyntaxNode) : Nat := (n.text.map (·.start)).getD 0

/-- The byte after a node. -/
def lastByte (n : SyntaxNode) : Nat := (n.text.map (·.stop)).getD 0

mutual
/-- The tree with comments inside it, which are given in order. -/
def withComments (comments : List SyntaxNode) : SyntaxNode → SyntaxNode
  | ⟨kind, named, start, stop, text, isError, isMissing, hasError, field, children⟩ =>
    ⟨kind, named, start, stop, text, isError, isMissing, hasError, field,
      if comments.isEmpty then children else amongChildren comments children⟩

/-- Children with comments between and inside them. -/
def amongChildren (comments : List SyntaxNode) : List SyntaxNode → List SyntaxNode
  | [] => comments
  | n :: rest =>
    let before := comments.takeWhile fun c => decide (firstByte c < firstByte n)
    let later := comments.dropWhile fun c => decide (firstByte c < firstByte n)
    let inside := later.takeWhile fun c => decide (firstByte c < lastByte n)
    let after := later.dropWhile fun c => decide (firstByte c < lastByte n)
    before ++ withComments inside n :: amongChildren after rest
end

/-! ## Programs -/

/-- The number of levels that a source can need. -/
def levelsFor (s : Source) : Nat := 8 * (s.size + 2)

/-- A whole program. -/
def program : Reader SyntaxNode := do
  let s ← read
  resume s.beginning
  let start ← place
  let inner := rules (levelsFor s)
  let statements ← whenever (return (← peek).kind != .finish) do return [← inner .statement]
  let _ ← take
  let whole := s.node "program" start s.size statements
  require (!straysDefault whole)
  let comments := (← get).comments.reverse.map fun (i, j) => s.node "comment" i j []
  return withComments comments whole

/-- A program with an error at a place. -/
def failedProgram (s : Source) (i : Nat) : SyntaxNode :=
  let fault := { s.node "ERROR" i (i + 1) [] with isError := true, hasError := true }
  { s.node "program" 0 s.size [fault] with hasError := true }

/-- The tree of a source. -/
def treeOf (s : Source) : SyntaxNode :=
  let start : Cursor :=
    { token := s.tokenAt 0, reached := 0, comments := [], notArrows := [] }
  match program.run s |>.run start with
  | .ok tree _ => tree
  | .error refusal _ => failedProgram s refusal.place

end CodeSmell.Grammar

namespace CodeSmell

/-- The parser for both grammars of the language. -/
def SourceParser.grammar : SourceParser := fun variant text =>
  Grammar.treeOf (Grammar.Source.ofString text (variant == .tsx))

end CodeSmell
