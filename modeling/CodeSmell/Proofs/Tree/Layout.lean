/-
Trees whose places are laid out.

A parser gives every node a stretch of the source: a child lies in the stretch of its
parent, and a sibling begins no earlier than the one before it ends. Nothing in the
walk looks at places, it goes by the nesting of nodes alone. That it nevertheless comes
to the rows of a source in their order is shown here, by induction over the nesting:
all visits below a node stay between the rows of the node, so those below one sibling
are over before those below the next begin.
-/
import CodeSmell.Proofs.Tree.Basic
import Mathlib.Data.List.Chain

set_option autoImplicit false

namespace CodeSmell

/-! ## Places -/

/-- Places are ordered by their rows, and in a row by their columns. -/
instance : LE Point := ⟨fun p q => p.row < q.row ∨ p.row = q.row ∧ p.column ≤ q.column⟩

instance (p q : Point) : Decidable (p ≤ q) :=
  inferInstanceAs (Decidable (p.row < q.row ∨ p.row = q.row ∧ p.column ≤ q.column))

theorem Point.row_le {p q : Point} (h : p ≤ q) : p.row ≤ q.row := by
  rcases h with h | ⟨h, -⟩
  · omega
  · omega

namespace SyntaxNode

/-- The places of a tree are laid out in a source: they lie in rows up to `last`, each
node in its parent, and each sibling behind the one before it. -/
structure LaidOut (last : Int) (root : SyntaxNode) : Prop where
  rows : ∀ n ∈ root.preorder, 0 ≤ n.start.row ∧ n.stop.row ≤ last
  forward : ∀ n ∈ root.preorder, n.start ≤ n.stop
  nested : ∀ n ∈ root.preorder, ∀ c ∈ n.children, n.start ≤ c.start ∧ c.stop ≤ n.stop
  ordered : ∀ n ∈ root.preorder, n.children.IsChain fun a b => a.stop ≤ b.start

namespace LaidOut

variable {last : Int} {root : SyntaxNode}

/-- A subtree of a tree that is laid out is laid out. -/
theorem of_mem_children (h : root.LaidOut last) {c : SyntaxNode} (hc : c ∈ root.children) :
    c.LaidOut last where
  rows n hn := h.rows n (preorder_subset_of_mem hc hn)
  forward n hn := h.forward n (preorder_subset_of_mem hc hn)
  nested n hn := h.nested n (preorder_subset_of_mem hc hn)
  ordered n hn := h.ordered n (preorder_subset_of_mem hc hn)

/-- A sibling ends before any later one begins, not only the next one. -/
theorem pairwise_children (h : root.LaidOut last) :
    root.children.Pairwise fun a b => a.stop.row ≤ b.start.row := by
  have hforward : ∀ c ∈ root.children, c.start.row ≤ c.stop.row := fun c hc =>
    Point.row_le (h.forward c (preorder_subset_of_mem hc c.self_mem_preorder))
  have hchain := h.ordered root root.self_mem_preorder
  generalize root.children = ns at hforward hchain
  induction ns with
  | nil => exact .nil
  | cons n rest ih =>
    obtain ⟨-, hrest⟩ := List.forall_mem_cons.mp hforward
    cases rest with
    | nil => exact List.pairwise_singleton _ n
    | cons m ms =>
      obtain ⟨hnm, htail⟩ := List.isChain_cons_cons.mp hchain
      have hpairwise := ih hrest htail
      refine List.pairwise_cons.mpr ⟨?_, hpairwise⟩
      have hm : n.stop.row ≤ m.start.row := Point.row_le hnm
      refine List.forall_mem_cons.mpr ⟨hm, fun b hb => ?_⟩
      calc n.stop.row ≤ m.start.row := hm
        _ ≤ m.stop.row := hrest m List.mem_cons_self
        _ ≤ b.start.row := (List.pairwise_cons.mp hpairwise).1 b hb

/-- Every visit below a node is to a row of the node. -/
theorem row_mem (h : root.LaidOut last) {ancestors : List SyntaxNode} {v : Visit}
    (hv : v ∈ visits ancestors root) :
    root.start.row ≤ v.node.start.row ∧ v.node.start.row ≤ root.stop.row := by
  induction root using induct_children generalizing ancestors with
  | node n ih =>
    rw [visits_eq] at hv
    rcases List.mem_cons.mp hv with rfl | hv
    · exact ⟨Int.le_refl _, Point.row_le (h.forward n n.self_mem_preorder)⟩
    · obtain ⟨c, hc, hv⟩ := List.mem_flatMap.mp hv
      have hmem : c ∈ n.children := (List.mem_filter.mp hc).1
      obtain ⟨hlow, hhigh⟩ := ih c hmem (h.of_mem_children hmem) hv
      obtain ⟨hstart, hstop⟩ := h.nested n n.self_mem_preorder c hmem
      exact ⟨Int.le_trans (Point.row_le hstart) hlow, Int.le_trans hhigh (Point.row_le hstop)⟩

/-- The visits come to the rows in their order. -/
theorem pairwise_visits (h : root.LaidOut last) (ancestors : List SyntaxNode) :
    (visits ancestors root).Pairwise fun v w => v.node.start.row ≤ w.node.start.row := by
  induction root using induct_children generalizing ancestors with
  | node n ih =>
    have hrow {w : Visit} (hw : w ∈ visits ancestors n) : n.start.row ≤ w.node.start.row :=
      (h.row_mem hw).1
    rw [visits_eq] at hrow ⊢
    refine List.pairwise_cons.mpr ⟨fun w hw => hrow (List.mem_cons_of_mem _ hw), ?_⟩
    refine List.pairwise_flatMap.mpr ⟨?_, ?_⟩
    · intro c hc
      have hmem : c ∈ n.children := (List.mem_filter.mp hc).1
      exact ih c hmem (h.of_mem_children hmem) (n :: ancestors)
    · -- Between two siblings: the first one's last row is not behind the second one's first.
      refine (h.pairwise_children.filter _).imp_of_mem ?_
      intro a b ha hb hab v hv w hw
      have ha : a ∈ n.children := (List.mem_filter.mp ha).1
      have hb : b ∈ n.children := (List.mem_filter.mp hb).1
      calc v.node.start.row ≤ a.stop.row := ((h.of_mem_children ha).row_mem hv).2
        _ ≤ b.start.row := hab
        _ ≤ w.node.start.row := ((h.of_mem_children hb).row_mem hw).1

end LaidOut

end SyntaxNode

end CodeSmell
