/-
Positions in a tree.

Two nodes of a tree may be equal in everything that a node holds, so "each node
once" is a statement about positions and not about nodes. A position is the list
of the child numbers on the way down from the root. `Reaches` says what stands at
a position and what stands around it, parent first; it goes only into named
nodes, as a walk does.

The order of positions as lists of numbers is the order of the document: a
position comes before those that continue it, and of two that part, the one
that takes the earlier child comes first. Main statement: the visits of a tree
are what stands at its positions, every position once, in that order.
-/
import CodeSmell.Proofs.Tree.Basic
import Mathlib.Data.List.Forall2

set_option autoImplicit false

namespace CodeSmell

namespace SyntaxNode

/-! ## What stands where -/

/-- The way down from `root` along the child numbers `p`, through named nodes only,
ends at a node; `around` are the nodes it stands in, its parent first and `root` last. -/
inductive Reaches (root : SyntaxNode) : List Nat → List SyntaxNode → SyntaxNode → Prop where
  | here : Reaches root [] [] root
  | down {p : List Nat} {around : List SyntaxNode} {n c : SyntaxNode} {i : Nat}
      (parent : Reaches root p around n) (child : n.children[i]? = some c)
      (named : c.named = true) : Reaches root (p ++ [i]) (n :: around) c

mutual
/-- The positions of a node and of everything named inside it, in document order. -/
def positions : SyntaxNode → List (List Nat)
  | ⟨_, _, _, _, _, _, _, _, _, children⟩ => [] :: positionsFrom 0 children

/-- The positions of the named nodes of a list and of everything named inside them,
where the list begins with child number `i`. -/
def positionsFrom (i : Nat) : List SyntaxNode → List (List Nat)
  | [] => []
  | n :: rest =>
    (if n.named then (positions n).map (i :: ·) else []) ++ positionsFrom (i + 1) rest
end

theorem positions_eq (n : SyntaxNode) : n.positions = [] :: positionsFrom 0 n.children := by
  cases n; rfl

/-- A position below one of the nodes of a list is the number of that node, followed
by a position in it. -/
theorem mem_positionsFrom {p : List Nat} {ns : List SyntaxNode} {i : Nat} :
    p ∈ positionsFrom i ns ↔
      ∃ k c q, ns[k]? = some c ∧ c.named = true ∧ q ∈ c.positions ∧ p = (i + k) :: q := by
  induction ns generalizing i with
  | nil => simp [positionsFrom]
  | cons n rest ih =>
    rw [positionsFrom, List.mem_append, ih]
    constructor
    · rintro (hp | ⟨k, c, q, hc, hn, hq, rfl⟩)
      · by_cases hn : n.named = true
        · rw [if_pos hn] at hp
          obtain ⟨q, hq, rfl⟩ := List.mem_map.mp hp
          exact ⟨0, n, q, rfl, hn, hq, rfl⟩
        · rw [if_neg hn] at hp
          simp at hp
      · exact ⟨k + 1, c, q, hc, hn, hq, by rw [Nat.add_right_comm, Nat.add_assoc]⟩
    · rintro ⟨_ | k, c, q, hc, hn, hq, rfl⟩
      · obtain rfl : n = c := Option.some.inj hc
        rw [if_pos hn]
        exact .inl (List.mem_map.mpr ⟨q, hq, rfl⟩)
      · exact .inr ⟨k, c, q, hc, hn, hq, by rw [Nat.add_right_comm, Nat.add_assoc]⟩

/-! ## Ways down, read from the root

`Reaches` grows at the lower end. Recursions over a tree go the other way: they
first choose a child of the root. -/

/-- A way down from a child is a way down from the node. -/
theorem Reaches.of_child {n c m : SyntaxNode} {i : Nat} {p : List Nat} {around : List SyntaxNode}
    (child : n.children[i]? = some c) (named : c.named = true) (h : c.Reaches p around m) :
    n.Reaches (i :: p) (around ++ [n]) m := by
  induction h with
  | here => exact .down .here child named
  | down _ child' named' ih => exact .down ih child' named'

/-- A way down is empty or begins with a way to a child. -/
theorem Reaches.cases_root {n m : SyntaxNode} {p : List Nat} {around : List SyntaxNode}
    (h : n.Reaches p around m) :
    (p = [] ∧ around = [] ∧ m = n) ∨
      ∃ i c q above, p = i :: q ∧ around = above ++ [n] ∧ n.children[i]? = some c ∧
        c.named = true ∧ c.Reaches q above m := by
  induction h with
  | here => exact .inl ⟨rfl, rfl, rfl⟩
  | @down p around parent c i _ child named ih =>
    rcases ih with ⟨rfl, rfl, rfl⟩ | ⟨k, d, q, above, rfl, rfl, hd, hn, hq⟩
    · exact .inr ⟨i, c, [], [], rfl, rfl, child, named, .here⟩
    · exact .inr ⟨k, d, q ++ [i], parent :: above, rfl, rfl, hd, hn, .down hq child named⟩

/-- A way down is empty or ends with a step from the parent. -/
theorem Reaches.cases_end {n m : SyntaxNode} {p : List Nat} {around : List SyntaxNode}
    (h : n.Reaches p around m) :
    (p = [] ∧ around = [] ∧ m = n) ∨
      ∃ i q parent above, p = q ++ [i] ∧ around = parent :: above ∧ n.Reaches q above parent ∧
        parent.children[i]? = some m := by
  cases h with
  | here => exact .inl ⟨rfl, rfl, rfl⟩
  | down parent child _ => exact .inr ⟨_, _, _, _, rfl, rfl, parent, child⟩

/-- One node stands at a position, and in one way. -/
theorem Reaches.unique {n m m' : SyntaxNode} {p : List Nat} {around around' : List SyntaxNode}
    (h : n.Reaches p around m) (h' : n.Reaches p around' m') : m = m' ∧ around = around' := by
  induction h generalizing m' around' with
  | here =>
    rcases h'.cases_end with ⟨-, rfl, rfl⟩ | ⟨i, q, _, _, hp, -, -, -⟩
    · exact ⟨rfl, rfl⟩
    · simp at hp
  | down _ child _ ih =>
    rcases h'.cases_end with ⟨hp, -, -⟩ | ⟨i, q, parent', above', hp, rfl, hq, child'⟩
    · simp at hp
    · obtain ⟨rfl, hi⟩ := List.append_inj' hp rfl
      obtain rfl := List.singleton_inj.mp hi
      obtain ⟨rfl, rfl⟩ := ih hq
      exact ⟨Option.some.inj (child.symm.trans child'), rfl⟩

/-- The listed positions are exactly those that a way down leads to. -/
theorem mem_positions {n : SyntaxNode} :
    ∀ {p : List Nat}, p ∈ n.positions ↔ ∃ around m, n.Reaches p around m := by
  induction n using induct_children with
  | node n ih =>
    intro p
    rw [positions_eq, List.mem_cons, mem_positionsFrom]
    constructor
    · rintro (rfl | ⟨k, c, q, hc, hn, hq, rfl⟩)
      · exact ⟨[], n, .here⟩
      · obtain ⟨around, m, h⟩ := (ih c (List.mem_of_getElem? hc)).mp hq
        rw [Nat.zero_add]
        exact ⟨around ++ [n], m, .of_child hc hn h⟩
    · rintro ⟨around, m, h⟩
      rcases h.cases_root with ⟨rfl, -, -⟩ | ⟨i, c, q, above, rfl, -, hc, hn, hq⟩
      · exact .inl rfl
      · refine .inr ⟨i, c, q, hc, hn, ?_, by rw [Nat.zero_add]⟩
        exact (ih c (List.mem_of_getElem? hc)).mpr ⟨above, m, hq⟩

/-! ## Order -/

/-- Positions below the nodes of a list begin with the number of the first of them
or a later one. -/
theorem exists_cons_of_mem_positionsFrom {p : List Nat} {ns : List SyntaxNode} {i : Nat}
    (h : p ∈ positionsFrom i ns) : ∃ k q, i ≤ k ∧ p = k :: q := by
  obtain ⟨k, _, q, _, _, _, rfl⟩ := mem_positionsFrom.mp h
  exact ⟨i + k, q, Nat.le_add_right i k, rfl⟩

/-- If positions in each node of a list are in order, so are those below the list. -/
theorem pairwise_positionsFrom {ns : List SyntaxNode}
    (h : ∀ c ∈ ns, c.positions.Pairwise (· < ·)) (i : Nat) :
    (positionsFrom i ns).Pairwise (· < ·) := by
  induction ns generalizing i with
  | nil => exact .nil
  | cons n rest ih =>
    rw [positionsFrom, List.pairwise_append]
    refine ⟨?_, ih (fun c hc => h c (List.mem_cons_of_mem n hc)) (i + 1), ?_⟩
    · by_cases hn : n.named = true
      · rw [if_pos hn, List.pairwise_map]
        exact (h n List.mem_cons_self).imp fun hlt => List.cons_lt_cons_iff.mpr (.inr ⟨rfl, hlt⟩)
      · rw [if_neg hn]
        exact .nil
    · intro p hp q hq
      obtain ⟨k, q', hk, rfl⟩ := exists_cons_of_mem_positionsFrom hq
      by_cases hn : n.named = true
      · rw [if_pos hn] at hp
        obtain ⟨p', _, rfl⟩ := List.mem_map.mp hp
        exact List.cons_lt_cons_iff.mpr (.inl hk)
      · rw [if_neg hn] at hp
        simp at hp

/-- The listed positions are in document order, and so each is listed once. -/
theorem pairwise_positions (n : SyntaxNode) : n.positions.Pairwise (· < ·) := by
  induction n using induct_children with
  | node n ih =>
    rw [positions_eq, List.pairwise_cons]
    refine ⟨?_, pairwise_positionsFrom ih 0⟩
    intro p hp
    obtain ⟨k, q, _, rfl⟩ := exists_cons_of_mem_positionsFrom hp
    exact List.nil_lt_cons k q

end SyntaxNode

/-! ## Visits -/

open SyntaxNode

/-- The visit is to the node at a position, with the nodes it stands in followed by
those that the tree itself stands in. -/
def Visit.IsAt (v : Visit) (n : SyntaxNode) (outside : List SyntaxNode) (p : List Nat) : Prop :=
  ∃ around, n.Reaches p around v.node ∧ v.ancestors = around ++ outside

/-- If the visits to each node of a list are what stands at its positions, the same
holds of the positions and the visits below the list. -/
theorem forall₂_positionsFrom {n : SyntaxNode} {outside ns : List SyntaxNode} {i : Nat}
    (children : ∀ k c, ns[k]? = some c → n.children[i + k]? = some c)
    (each : ∀ c ∈ ns, List.Forall₂ (fun p v => Visit.IsAt v c (n :: outside) p) c.positions
      (visits (n :: outside) c)) :
    List.Forall₂ (fun p v => Visit.IsAt v n outside p) (positionsFrom i ns)
      ((ns.filter (·.named)).flatMap (visits (n :: outside))) := by
  induction ns generalizing i with
  | nil => exact .nil
  | cons c rest ih =>
    have hrest := ih (i := i + 1)
      (fun k d hd => by rw [Nat.add_right_comm]; exact children (k + 1) d hd)
      (fun d hd => each d (List.mem_cons_of_mem c hd))
    have hc : n.children[i]? = some c := children 0 c rfl
    rw [positionsFrom]
    by_cases hn : c.named = true
    · rw [if_pos hn, List.filter_cons_of_pos hn, List.flatMap_cons]
      refine List.rel_append ?_ hrest
      rw [List.forall₂_map_left_iff]
      refine (each c List.mem_cons_self).imp ?_
      rintro p v ⟨around, hp, hv⟩
      exact ⟨around ++ [n], .of_child hc hn hp, by rw [hv, List.append_assoc]; rfl⟩
    · rw [if_neg hn, List.filter_cons_of_neg hn, List.nil_append]
      exact hrest

/-- The visits of a tree are what stands at its positions, in their order. -/
theorem forall₂_positions (n : SyntaxNode) : ∀ outside : List SyntaxNode,
    List.Forall₂ (fun p v => Visit.IsAt v n outside p) n.positions (visits outside n) := by
  induction n using induct_children with
  | node n ih =>
    intro outside
    rw [positions_eq, visits_eq]
    refine .cons ⟨[], .here, rfl⟩ (forall₂_positionsFrom ?_ fun c hc => ih c hc (n :: outside))
    intro k c hc
    rw [Nat.zero_add]
    exact hc

/-- A position and a visit are listed at the same place exactly if the way down along
the position ends at the visited node, with the ancestors of the visit around it. -/
theorem mem_zip_positions {root : SyntaxNode} {p : List Nat} {v : Visit} :
    (p, v) ∈ root.positions.zip (visits [] root) ↔ root.Reaches p v.ancestors v.node := by
  have each {q : List Nat} {w : Visit} (h : (q, w) ∈ root.positions.zip (visits [] root)) :
      root.Reaches q w.ancestors w.node := by
    obtain ⟨around, hq, hw⟩ := (List.forall₂_iff_zip.mp (forall₂_positions root [])).2 h
    rw [hw, List.append_nil]
    exact hq
  refine ⟨each, fun h => ?_⟩
  have hp : p ∈ root.positions := mem_positions.mpr ⟨v.ancestors, v.node, h⟩
  rw [← List.map_fst_zip (Nat.le_of_eq (forall₂_positions root []).length_eq)] at hp
  obtain ⟨⟨q, w⟩, hmem, rfl⟩ := List.mem_map.mp hp
  obtain ⟨hnode, hancestors⟩ := (each hmem).unique h
  have hw : w = v := by
    cases w; cases v
    simp only [Visit.mk.injEq]
    exact ⟨hnode, hancestors⟩
  rw [← hw]
  exact hmem

end CodeSmell
