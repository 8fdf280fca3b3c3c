/-
Syntax trees.

A node has a kind, a place, and children in source order. Named nodes stand for
constructs of the language, the others for the tokens between them. A node may
carry the name of the field it fills in its parent, and the bytes it covers; a
node without bytes reads as the empty text. A parser that recovers from a fault
leaves a mark: an error node where it skipped something, a missing node where it
made something up; `hasError` says that a node or something below it is marked.

The text of a node is a stretch of a byte string that all nodes of a tree may
share.
-/
import CodeSmell.Text.Utf8

set_option autoImplicit false

namespace CodeSmell

/-- A place in a source: row and column, both from zero, the column in bytes. -/
structure Point where
  row : Int
  column : Int
  deriving DecidableEq, Repr, Inhabited

/-- A stretch of a byte string. -/
structure Excerpt where
  bytes : ByteArray
  start : Nat
  stop : Nat

namespace Excerpt

/-- The bytes of the stretch. -/
def toList (e : Excerpt) : List UInt8 := (e.bytes.extract e.start e.stop).toList

/-- A stretch that is all of a byte string. -/
def ofBytes (bytes : ByteArray) : Excerpt := ⟨bytes, 0, bytes.size⟩

end Excerpt

/-- A node of a syntax tree. -/
structure SyntaxNode where
  kind : String
  named : Bool
  start : Point
  stop : Point
  text : Option Excerpt
  isError : Bool
  isMissing : Bool
  hasError : Bool
  /-- The field that the node fills in its parent. -/
  field : Option String
  children : List SyntaxNode

namespace SyntaxNode

/-- A childless named node of a kind at the start of the source. -/
def leaf (kind : String) : SyntaxNode :=
  { kind := kind, named := true, start := ⟨0, 0⟩, stop := ⟨0, 0⟩, text := none
    isError := false, isMissing := false, hasError := false, field := none, children := [] }

instance : Inhabited SyntaxNode := ⟨leaf ""⟩

/-- The children that stand for constructs. -/
def namedChildren (n : SyntaxNode) : List SyntaxNode := n.children.filter (·.named)

/-- The first child that fills a field. -/
def child? (n : SyntaxNode) (field : String) : Option SyntaxNode :=
  n.children.find? fun c => c.field == some field

/-- The bytes that the node covers. -/
def bytes (n : SyntaxNode) : List UInt8 := (n.text.map Excerpt.toList).getD []

/-- The text of the node. -/
def content (n : SyntaxNode) : String := String.ofList (Text.Utf8.decode n.bytes)

/-- The node is an error or a missing node itself. -/
def isFaulty (n : SyntaxNode) : Bool := n.isError || n.isMissing

/-- The row of the node, counted from one. -/
def line (n : SyntaxNode) : Int := n.start.row + 1

/-- The rows from the first to the last of the node. -/
def rowSpan (n : SyntaxNode) : Int := n.stop.row - n.start.row

/-! ## Size

The number of nodes of a tree is what traversals with a stack use up. -/

mutual
/-- The number of nodes of a tree. -/
def size : SyntaxNode → Nat
  | ⟨_, _, _, _, _, _, _, _, _, children⟩ => sizeAll children + 1

/-- The number of nodes of a list of trees. -/
def sizeAll : List SyntaxNode → Nat
  | [] => 0
  | n :: rest => size n + sizeAll rest
end

theorem size_eq (n : SyntaxNode) : n.size = sizeAll n.children + 1 := by
  cases n; rfl

@[simp] theorem sizeAll_nil : sizeAll [] = 0 := rfl

@[simp] theorem sizeAll_cons (n : SyntaxNode) (rest : List SyntaxNode) :
    sizeAll (n :: rest) = n.size + sizeAll rest := rfl

@[simp] theorem sizeAll_append (a b : List SyntaxNode) :
    sizeAll (a ++ b) = sizeAll a + sizeAll b := by
  induction a with
  | nil => simp
  | cons n rest ih => simp [ih, Nat.add_assoc]

theorem sizeAll_filter_le (p : SyntaxNode → Bool) (ns : List SyntaxNode) :
    sizeAll (ns.filter p) ≤ sizeAll ns := by
  induction ns with
  | nil => simp
  | cons n rest ih =>
    by_cases h : p n = true
    · simp [List.filter_cons_of_pos h, ih]
    · simp only [List.filter_cons_of_neg h, sizeAll_cons]; omega

/-- The named children of a node have fewer nodes than the node. -/
theorem sizeAll_namedChildren_lt (n : SyntaxNode) : sizeAll n.namedChildren < n.size := by
  have := sizeAll_filter_le (·.named) n.children
  rw [size_eq]
  unfold namedChildren
  omega

end SyntaxNode

end CodeSmell
