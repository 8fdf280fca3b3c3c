/-
Whether a tree can be trusted.

A parser that recovered from a fault has left error or missing nodes. A tree
with such a node is refused, and the refusal names the first one in document
order. The search keeps a stack of the nodes that remain, nearest first, and
leaves out every subtree that says it holds no fault. Beside it stands the plain
search through all nodes, which is what the stack search is meant to find.
-/
import CodeSmell.Stack
import CodeSmell.Syntax.Node
import CodeSmell.Syntax.Variant
import CodeSmell.Text.Blank
import CodeSmell.Text.Quoted

set_option autoImplicit false

namespace CodeSmell

/-- A source that its grammar does not accept. -/
structure ParseFailure where
  line : Int
  column : Int
  variant : String
  detail : String
  deriving DecidableEq, Repr

/-- The wording of the failure. -/
def ParseFailure.message (e : ParseFailure) : String :=
  let place :=
    s!"cannot parse source as {e.variant} at line {e.line}, column {e.column}"
  if e.detail.isEmpty then place else place ++ ": " ++ e.detail

namespace SyntaxNode

/-- The first faulty node among the nodes of a stack and below them, looking only
below nodes that say they hold a fault. -/
def firstFaultOf (stack : List SyntaxNode) : Option SyntaxNode :=
  match stack with
  | [] => none
  | n :: rest =>
    if n.isFaulty then some n
    else if n.hasError then firstFaultOf (Stack.pushAll n.children rest)
    else firstFaultOf rest
termination_by sizeAll stack
decreasing_by
  all_goals
    have := size_eq n
    simp only [Stack.pushAll_eq, sizeAll_append, sizeAll_cons]
    omega

/-- The first faulty node of a tree, by the stack. -/
def firstFault (root : SyntaxNode) : Option SyntaxNode := firstFaultOf [root]

mutual
/-- All nodes of a tree, a node before its children. -/
def preorder : SyntaxNode → List SyntaxNode
  | n@⟨_, _, _, _, _, _, _, _, _, children⟩ => n :: preorderAll children

/-- All nodes of a list of trees. -/
def preorderAll : List SyntaxNode → List SyntaxNode
  | [] => []
  | n :: rest => preorder n ++ preorderAll rest
end

/-- What is said about a faulty node: what is missing, or what stands there, shown
up to forty characters. -/
def faultDetail (n : SyntaxNode) : String :=
  if n.isMissing then "missing " ++ Text.quoted n.kind
  else
    let text := Text.trim n.content
    if text.isEmpty then "unexpected input"
    else "unexpected " ++ Text.quoted (String.ofList (text.toList.take 40))

/-- Why the tree is refused; nothing if it can be trusted. -/
def refusal? (root : SyntaxNode) (variant : Variant) : Option ParseFailure :=
  if root.hasError then
    let bad := root.firstFault.getD root
    some
      { line := bad.start.row + 1
        column := bad.start.column + 1
        variant := variant.text
        detail := bad.faultDetail }
  else none

end SyntaxNode

/-- How a source becomes a tree. -/
abbrev SourceParser := Variant → String → SyntaxNode

/-- The tree of a source, or why it has none that can be trusted. -/
def SourceParser.tree (parser : SourceParser) (variant : Variant) (source : String) :
    Except ParseFailure SyntaxNode :=
  let root := parser variant source
  match root.refusal? variant with
  | some failure => .error failure
  | none => .ok root

end CodeSmell
