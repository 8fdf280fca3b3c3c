/-
Trees: the induction that proofs about them use, and the lists that traversals
are compared with.

Lists over a tree are written as a pair of recursions, one over a node and one
over the nodes of a list. Here each pair becomes one equation: a node, then the
lists of its children one after another. Together with `induct_children` that is
the whole reasoning interface; no later proof looks at the list half of a pair.
-/
import CodeSmell.Syntax.Soundness
import CodeSmell.Walk

set_option autoImplicit false

namespace CodeSmell

namespace SyntaxNode

/-! ## Induction -/

/-- A member of a list of trees has no more nodes than the list. -/
theorem size_le_sizeAll {c : SyntaxNode} {ns : List SyntaxNode} (h : c ∈ ns) :
    c.size ≤ sizeAll ns := by
  induction ns with
  | nil => simp at h
  | cons n rest ih =>
    rw [sizeAll_cons]
    rcases List.mem_cons.mp h with rfl | h
    · omega
    · have := ih h
      omega

/-- A child has fewer nodes than the node around it. -/
theorem size_lt_of_mem_children {c n : SyntaxNode} (h : c ∈ n.children) : c.size < n.size := by
  have := size_le_sizeAll h
  rw [size_eq n]
  omega

/-- What passes from the children of every node to the node holds of every tree. -/
theorem induct_children {motive : SyntaxNode → Prop}
    (node : ∀ n, (∀ c ∈ n.children, motive c) → motive n) (n : SyntaxNode) : motive n :=
  node n fun c _ => induct_children node c
termination_by n.size
decreasing_by exact size_lt_of_mem_children ‹_›

/-! ## All nodes -/

theorem preorderAll_eq (ns : List SyntaxNode) : preorderAll ns = ns.flatMap preorder := by
  induction ns with
  | nil => rfl
  | cons n rest ih => rw [preorderAll, ih, List.flatMap_cons]

/-- A node comes before its children, and those in their order. -/
theorem preorder_eq (n : SyntaxNode) : n.preorder = n :: n.children.flatMap preorder := by
  cases n
  rw [preorder, preorderAll_eq]

theorem self_mem_preorder (n : SyntaxNode) : n ∈ n.preorder := by
  rw [preorder_eq]
  exact List.mem_cons_self

theorem preorder_subset_of_mem {c n : SyntaxNode} (h : c ∈ n.children) :
    c.preorder ⊆ n.preorder := by
  intro m hm
  rw [preorder_eq n]
  exact List.mem_cons_of_mem n (List.mem_flatMap.mpr ⟨c, h, hm⟩)

end SyntaxNode

/-! ## Visits -/

theorem visitsAll_eq (ancestors ns : List SyntaxNode) :
    visitsAll ancestors ns = (ns.filter (·.named)).flatMap (visits ancestors) := by
  induction ns with
  | nil => rfl
  | cons n rest ih =>
    rw [visitsAll, ih]
    by_cases h : n.named = true
    · rw [if_pos h, List.filter_cons_of_pos h, List.flatMap_cons]
    · rw [if_neg h, List.filter_cons_of_neg h, List.nil_append]

/-- A node is visited before the named nodes inside it, and those from left to
right, each with the node put in front of what is around. -/
theorem visits_eq (ancestors : List SyntaxNode) (n : SyntaxNode) :
    visits ancestors n = ⟨n, ancestors⟩ :: n.namedChildren.flatMap (visits (n :: ancestors)) := by
  cases n
  rw [visits, visitsAll_eq]
  rfl

/-- The visited nodes are nodes of the tree. -/
theorem node_mem_preorder {v : Visit} {n : SyntaxNode} :
    ∀ {ancestors : List SyntaxNode}, v ∈ visits ancestors n → v.node ∈ n.preorder := by
  induction n using SyntaxNode.induct_children with
  | node n ih =>
    intro ancestors hv
    rw [visits_eq] at hv
    rcases List.mem_cons.mp hv with rfl | hv
    · exact n.self_mem_preorder
    · obtain ⟨c, hc, hv⟩ := List.mem_flatMap.mp hv
      have hmem : c ∈ n.children := (List.mem_filter.mp hc).1
      exact SyntaxNode.preorder_subset_of_mem hmem (ih c hmem hv)

end CodeSmell
