/-
The search for the first fault.

The search keeps a stack and leaves out every subtree that says it holds no
fault, while the plain search looks at all nodes of the tree in document order.
They agree on trees in which the marks are right: a node says that it holds a
fault exactly if it is faulty itself or one of its children says so. In such a
tree the mark of a node tells whether a fault lies anywhere in it, so what is left
out holds none, and where the root is marked there is one to find.
-/
import CodeSmell.Proofs.Tree.Basic

set_option autoImplicit false

namespace CodeSmell.SyntaxNode

theorem isFaulty_iff {n : SyntaxNode} :
    n.isFaulty = true ↔ n.isError = true ∨ n.isMissing = true := by
  rw [isFaulty, Bool.or_eq_true]

theorem not_isFaulty_iff {n : SyntaxNode} :
    ¬n.isFaulty = true ↔ n.isError = false ∧ n.isMissing = false := by
  rw [isFaulty_iff, not_or, Bool.not_eq_true, Bool.not_eq_true]

/-- Every node of the tree says that it holds a fault exactly if it is an error or a
missing node, or one of its children says so. -/
def FaultsMarked (root : SyntaxNode) : Prop :=
  ∀ n ∈ root.preorder,
    (n.hasError = true ↔ n.isFaulty = true ∨ ∃ c ∈ n.children, c.hasError = true)

theorem FaultsMarked.of_mem_children {c n : SyntaxNode} (h : n.FaultsMarked)
    (hc : c ∈ n.children) : c.FaultsMarked :=
  fun m hm => h m (preorder_subset_of_mem hc hm)

/-- A node says that it holds a fault exactly if it or some node below it is faulty. -/
theorem hasError_iff_exists_faulty {n : SyntaxNode} :
    n.FaultsMarked → (n.hasError = true ↔ ∃ m ∈ n.preorder, m.isFaulty = true) := by
  induction n using induct_children with
  | node n ih =>
    intro marked
    rw [marked n n.self_mem_preorder, preorder_eq]
    constructor
    · rintro (hn | ⟨c, hc, herror⟩)
      · exact ⟨n, List.mem_cons_self, hn⟩
      · obtain ⟨m, hm, hfaulty⟩ := (ih c hc (marked.of_mem_children hc)).mp herror
        exact ⟨m, List.mem_cons_of_mem n (List.mem_flatMap.mpr ⟨c, hc, hm⟩), hfaulty⟩
    · rintro ⟨m, hm, hfaulty⟩
      rcases List.mem_cons.mp hm with rfl | hm
      · exact .inl hfaulty
      · obtain ⟨c, hc, hm⟩ := List.mem_flatMap.mp hm
        exact .inr ⟨c, hc, (ih c hc (marked.of_mem_children hc)).mpr ⟨m, hm, hfaulty⟩⟩

/-- Where a node says that it holds no fault, the plain search finds none. -/
theorem find?_preorder_eq_none {n : SyntaxNode} (marked : n.FaultsMarked)
    (herror : ¬n.hasError = true) : n.preorder.find? isFaulty = none := by
  rw [List.find?_eq_none]
  intro m hm hfaulty
  exact herror ((hasError_iff_exists_faulty marked).mpr ⟨m, hm, hfaulty⟩)

/-- The search with a stack finds what the plain search finds in the trees on it. -/
theorem firstFaultOf_eq (stack : List SyntaxNode) :
    (∀ n ∈ stack, n.FaultsMarked) →
      firstFaultOf stack = (stack.flatMap preorder).find? isFaulty := by
  induction stack using firstFaultOf.induct with
  | case1 =>
    intro _
    rw [firstFaultOf]
    rfl
  | case2 n rest hfaulty =>
    intro _
    rw [firstFaultOf, if_pos hfaulty, List.flatMap_cons, preorder_eq, List.cons_append,
      List.find?_cons_of_pos hfaulty]
  | case3 n rest hfaulty herror ih =>
    intro marked
    -- The node is passed over, and its children stand where it stood.
    have hchildren : ∀ c ∈ Stack.pushAll n.children rest, c.FaultsMarked := by
      intro c hc
      rw [Stack.pushAll_eq] at hc
      rcases List.mem_append.mp hc with hc | hc
      · exact (marked n List.mem_cons_self).of_mem_children hc
      · exact marked c (List.mem_cons_of_mem n hc)
    rw [firstFaultOf, if_neg hfaulty, if_pos herror, ih hchildren, Stack.pushAll_eq,
      List.flatMap_append, List.flatMap_cons, preorder_eq, List.cons_append,
      List.find?_cons_of_neg hfaulty]
  | case4 n rest hfaulty herror ih =>
    intro marked
    have hskip := find?_preorder_eq_none (marked n List.mem_cons_self) herror
    rw [firstFaultOf, if_neg hfaulty, if_neg herror,
      ih fun m hm => marked m (List.mem_cons_of_mem n hm), List.flatMap_cons, List.find?_append,
      hskip, Option.none_or]

/-- The first fault by the stack is the first faulty node in document order. -/
theorem firstFault_eq {root : SyntaxNode} (marked : root.FaultsMarked) :
    root.firstFault = root.preorder.find? isFaulty := by
  rw [firstFault, firstFaultOf_eq [root] fun n hn => List.mem_singleton.mp hn ▸ marked,
    List.flatMap_singleton]

end CodeSmell.SyntaxNode
