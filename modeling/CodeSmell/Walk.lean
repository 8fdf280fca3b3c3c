/-
The walk over a tree.

Every named node is visited once, a node before the nodes inside it and those
from left to right, and every rule is asked at every node in the order of the
list. A rule that fails is noted for that node, a warning is given, and the walk
goes on.

The walk itself is a loop over a stack of nodes still to visit, each with the
nodes around it. Beside it stands the order it is meant to follow, as a plain
recursion over the tree: `visits` lists the nodes with what is around them, and
what the rules say at them, in turn, is the outcome.
-/
import CodeSmell.Catalogue
import CodeSmell.Stack

set_option autoImplicit false

namespace CodeSmell

/-- What a walk collects, in the order it came. -/
structure WalkResult where
  detections : Array Detection
  diagnostics : Array Diagnostic
  warnings : Array String

namespace WalkResult

/-- Nothing collected. -/
def empty : WalkResult := ⟨#[], #[], #[]⟩

/-- Adds what a rule had to say. -/
def add (r : WalkResult) : RuleOutcome → WalkResult
  | .silent => r
  | .detected d => { r with detections := r.detections.push d }
  | .failed d =>
    { r with diagnostics := r.diagnostics.push d, warnings := r.warnings.push d.warning }

/-- Adds what each of the rules has to say about a node. -/
def visit (rules : List Rule) (r : WalkResult) (v : Visit) : WalkResult :=
  rules.foldl (fun r rule => r.add (rule.outcome v)) r

end WalkResult

namespace Visit

/-- The visits to the named nodes directly inside the visited one. -/
def inner (v : Visit) : List Visit :=
  v.node.namedChildren.map fun child => ⟨child, v.node :: v.ancestors⟩

/-- The number of nodes below a list of visits, the visited ones included. -/
def sizeAll (stack : List Visit) : Nat := SyntaxNode.sizeAll (stack.map (·.node))

theorem sizeAll_inner_append (v : Visit) (stack : List Visit) :
    sizeAll (v.inner ++ stack) < sizeAll (v :: stack) := by
  have h := SyntaxNode.sizeAll_namedChildren_lt v.node
  simp only [sizeAll, inner, List.map_append, List.map_map, List.map_cons,
    SyntaxNode.sizeAll_append, SyntaxNode.sizeAll_cons]
  have : (v.node.namedChildren.map ((fun w : Visit => w.node) ∘ fun child =>
      (⟨child, v.node :: v.ancestors⟩ : Visit))) = v.node.namedChildren := by
    simp [Function.comp_def]
  rw [this]
  omega

end Visit

/-- Where a walk stands: the visits still to make, the next one first, and what was
collected. -/
structure WalkState where
  pending : List Visit
  collected : WalkResult

namespace WalkState

/-- A walk that has not begun. -/
def start (root : SyntaxNode) : WalkState := ⟨[⟨root, []⟩], .empty⟩

/-- One turn: the next visit is made, and what is inside the node comes before all
that was pending. -/
def turn (rules : List Rule) (s : WalkState) : WalkState :=
  match s.pending with
  | [] => s
  | v :: rest => ⟨Stack.pushAll v.inner rest, s.collected.visit rules v⟩

/-- Turn after turn, as long as a visit is pending. -/
def run (rules : List Rule) : WalkState → WalkResult
  | ⟨[], collected⟩ => collected
  | ⟨v :: rest, collected⟩ => run rules (turn rules ⟨v :: rest, collected⟩)
termination_by s => Visit.sizeAll s.pending
decreasing_by
  simp only [turn, Stack.pushAll_eq]
  exact Visit.sizeAll_inner_append v rest

end WalkState

/-- The walk over a tree. -/
def walk (root : SyntaxNode) (rules : List Rule) : WalkResult := (WalkState.start root).run rules

/-! ## The order of the walk -/

mutual
/-- The visits to a node and everything named inside it, in the order of the walk. -/
def visits (ancestors : List SyntaxNode) : SyntaxNode → List Visit
  | n@⟨_, _, _, _, _, _, _, _, _, children⟩ => ⟨n, ancestors⟩ :: visitsAll (n :: ancestors) children

/-- The visits to the named nodes of a list and everything named inside them. -/
def visitsAll (ancestors : List SyntaxNode) : List SyntaxNode → List Visit
  | [] => []
  | n :: rest => (if n.named then visits ancestors n else []) ++ visitsAll ancestors rest
end

/-- What the rules say about the nodes of a tree, in the order of the walk. -/
def outcomes (root : SyntaxNode) (rules : List Rule) : List RuleOutcome :=
  (visits [] root).flatMap fun v => rules.map (·.outcome v)

end CodeSmell
