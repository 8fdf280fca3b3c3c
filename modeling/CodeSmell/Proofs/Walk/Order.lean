/-
The order of a walk.

The walk is a loop over a stack, and the order it is meant to follow is a
recursion over the tree. What ties them together is `toVisit`: the visits that a
state of the loop still has to make, which are those of each pending visit in
turn, whatever is below it included. A turn makes the first of them and leaves
the rest as they are, because what is put on the stack lies in its own order
above what was pending. Everything else is counting: after `k` turns the first
`k` visits are made, so the loop ends after as many turns as there are visits,
and has collected what the rules say at them, in turn.
-/
import CodeSmell.Proofs.Tree.Position
import Mathlib.Logic.Function.Iterate

set_option autoImplicit false

namespace CodeSmell

/-! ## What a walk collects -/

namespace RuleOutcome

/-- The detection, if it is one. -/
def detection? : RuleOutcome → Option Detection
  | detected d => some d
  | _ => none

/-- The diagnostic, if it is one. -/
def diagnostic? : RuleOutcome → Option Diagnostic
  | failed d => some d
  | _ => none

end RuleOutcome

theorem Rule.detection?_outcome_eq_some {rule : Rule} {v : Visit} {d : Detection} :
    (rule.outcome v).detection? = some d ↔ rule.evaluate v = .ok (some d) := by
  unfold Rule.outcome
  cases rule.evaluate v with
  | error fault => simp [RuleOutcome.detection?]
  | ok said => cases said <;> simp [RuleOutcome.detection?]

theorem Rule.diagnostic?_outcome_eq_some {rule : Rule} {v : Visit} {d : Diagnostic} :
    (rule.outcome v).diagnostic? = some d
      ↔ ∃ fault, rule.evaluate v = .error fault
          ∧ d = ⟨rule.id, v.node.kind, v.node.line, fault.describe⟩ := by
  unfold Rule.outcome
  cases rule.evaluate v with
  | error fault => simp [RuleOutcome.diagnostic?, eq_comm]
  | ok said => cases said <;> simp [RuleOutcome.diagnostic?]

namespace WalkResult

/-- Adds outcomes one after another. -/
def addAll (r : WalkResult) (os : List RuleOutcome) : WalkResult := os.foldl add r

@[simp] theorem addAll_nil (r : WalkResult) : r.addAll [] = r := rfl

@[simp] theorem addAll_cons (r : WalkResult) (o : RuleOutcome) (os : List RuleOutcome) :
    r.addAll (o :: os) = (r.add o).addAll os := rfl

theorem addAll_append (r : WalkResult) (os more : List RuleOutcome) :
    r.addAll (os ++ more) = (r.addAll os).addAll more := List.foldl_append

theorem visit_eq (rules : List Rule) (r : WalkResult) (v : Visit) :
    r.visit rules v = r.addAll (rules.map (·.outcome v)) := by
  rw [addAll, List.foldl_map]
  rfl

/-- The result that a list of outcomes amounts to: the detections in it, the
diagnostics in it, and a warning for each diagnostic. -/
def ofOutcomes (os : List RuleOutcome) : WalkResult :=
  ⟨(os.filterMap RuleOutcome.detection?).toArray, (os.filterMap RuleOutcome.diagnostic?).toArray,
    ((os.filterMap RuleOutcome.diagnostic?).map (·.warning)).toArray⟩

/-- One result and then another. -/
def append (a b : WalkResult) : WalkResult :=
  ⟨a.detections ++ b.detections, a.diagnostics ++ b.diagnostics, a.warnings ++ b.warnings⟩

theorem empty_append (r : WalkResult) : append empty r = r := by
  simp [append, empty]

theorem ofOutcomes_append (os more : List RuleOutcome) :
    ofOutcomes (os ++ more) = (ofOutcomes os).append (ofOutcomes more) := by
  simp only [ofOutcomes, append, List.filterMap_append, List.map_append, List.append_toArray]

/-- Adding outcomes one after another adds the result that they amount to. -/
theorem addAll_eq_append (r : WalkResult) (os : List RuleOutcome) :
    r.addAll os = r.append (ofOutcomes os) := by
  induction os generalizing r with
  | nil => simp [append, ofOutcomes]
  | cons o rest ih =>
    rw [addAll_cons, ih]
    cases o with
    | silent => rfl
    | detected d =>
      simp [add, append, ofOutcomes, List.filterMap_cons, RuleOutcome.detection?,
        RuleOutcome.diagnostic?]
    | failed d =>
      simp [add, append, ofOutcomes, List.filterMap_cons, RuleOutcome.detection?,
        RuleOutcome.diagnostic?]

end WalkResult

/-- What the rules say at visits, visit by visit. -/
def said (rules : List Rule) (vs : List Visit) : List RuleOutcome :=
  vs.flatMap fun v => rules.map (·.outcome v)

/-! ## Turns of the loop -/

namespace WalkState

/-- The visits that are still to make. -/
def toVisit (s : WalkState) : List Visit := s.pending.flatMap fun v => visits v.ancestors v.node

theorem toVisit_start (root : SyntaxNode) : (start root).toVisit = visits [] root := by
  rw [toVisit, start, List.flatMap_singleton]

theorem toVisit_pushAll_inner (v : Visit) (rest : List Visit) (r : WalkResult) :
    toVisit ⟨Stack.pushAll v.inner rest, r⟩
      = v.node.namedChildren.flatMap (visits (v.node :: v.ancestors))
        ++ rest.flatMap fun w => visits w.ancestors w.node := by
  rw [toVisit, Stack.pushAll_eq, List.flatMap_append, Visit.inner, List.flatMap_map]

/-- A pending visit is the first of those that are still to make, and a turn leaves
the others. -/
theorem toVisit_of_pending {s : WalkState} {v : Visit} {rest : List Visit} (rules : List Rule)
    (h : s.pending = v :: rest) : s.toVisit = v :: (s.turn rules).toVisit := by
  obtain ⟨pending, collected⟩ := s
  obtain rfl : pending = v :: rest := h
  rw [turn, toVisit_pushAll_inner, toVisit, List.flatMap_cons, visits_eq, List.cons_append]

/-- The next visit is the one on top of the stack. -/
theorem head?_toVisit (s : WalkState) : s.toVisit.head? = s.pending.head? := by
  cases h : s.pending with
  | nil => rw [toVisit, h]; rfl
  | cons v rest => rw [toVisit_of_pending [] h]; rfl

theorem toVisit_turn (rules : List Rule) (s : WalkState) :
    (s.turn rules).toVisit = s.toVisit.tail := by
  cases h : s.pending with
  | nil =>
    have hturn : s.turn rules = s := by rw [turn, h]
    rw [hturn, toVisit, h]
    rfl
  | cons v rest => rw [toVisit_of_pending rules h, List.tail_cons]

theorem collected_turn (rules : List Rule) (s : WalkState) :
    (s.turn rules).collected = s.collected.addAll (said rules (s.toVisit.take 1)) := by
  cases h : s.pending with
  | nil =>
    have hturn : s.turn rules = s := by rw [turn, h]
    rw [hturn, toVisit, h]
    rfl
  | cons v rest =>
    have hturn : (s.turn rules).collected = s.collected.visit rules v := by rw [turn, h]
    rw [hturn, toVisit_of_pending rules h, List.take_succ_cons, List.take_zero, said,
      List.flatMap_singleton, WalkResult.visit_eq]

/-- After `k` turns the first `k` visits are made. -/
theorem toVisit_iterate (rules : List Rule) (k : Nat) (s : WalkState) :
    ((turn rules)^[k] s).toVisit = s.toVisit.drop k := by
  induction k with
  | zero => rfl
  | succ k ih => rw [Function.iterate_succ_apply', toVisit_turn, ih, List.tail_drop]

/-- After `k` turns the walk has collected what the rules say at the first `k` visits. -/
theorem collected_iterate (rules : List Rule) (k : Nat) (s : WalkState) :
    ((turn rules)^[k] s).collected = s.collected.addAll (said rules (s.toVisit.take k)) := by
  induction k with
  | zero => rfl
  | succ k ih =>
    rw [Function.iterate_succ_apply', collected_turn, ih, toVisit_iterate,
      ← WalkResult.addAll_append, said, said, ← List.flatMap_append, ← List.take_add]
    rfl

/-- Nothing is pending exactly when every visit is made. -/
theorem pending_eq_nil_iff (s : WalkState) : s.pending = [] ↔ s.toVisit = [] := by
  rw [← List.head?_eq_none_iff, ← head?_toVisit, List.head?_eq_none_iff]

/-- The loop takes as many turns as there are visits to make. -/
theorem iterate_eq_run (rules : List Rule) (s : WalkState) :
    (turn rules)^[s.toVisit.length] s = ⟨[], s.run rules⟩ := by
  induction hk : s.toVisit.length generalizing s with
  | zero =>
    have hpending := (pending_eq_nil_iff s).mpr (List.length_eq_zero_iff.mp hk)
    obtain ⟨pending, collected⟩ := s
    obtain rfl : pending = [] := hpending
    rw [run]
    rfl
  | succ k ih =>
    obtain ⟨pending, collected⟩ := s
    cases pending with
    | nil => simp [toVisit] at hk
    | cons v rest =>
      rw [toVisit_of_pending rules rfl, List.length_cons, Nat.succ_inj] at hk
      rw [Function.iterate_succ_apply, ih _ hk, run]

/-- The loop adds to what it has collected what the rules say at the visits it has
still to make. -/
theorem run_eq (rules : List Rule) (s : WalkState) :
    s.run rules = s.collected.addAll (said rules s.toVisit) := by
  have h := collected_iterate rules s.toVisit.length s
  rw [iterate_eq_run, List.take_length] at h
  exact h

end WalkState

/-! ## The walk -/

/-- A walk collects what the rules say at the visits of the tree. -/
theorem walk_eq_ofOutcomes (root : SyntaxNode) (rules : List Rule) :
    walk root rules = .ofOutcomes (outcomes root rules) := by
  rw [walk, WalkState.run_eq, WalkState.toVisit_start, WalkResult.addAll_eq_append]
  exact WalkResult.empty_append _

/-- The detections of a walk, visit by visit. -/
theorem detections_walk_eq (root : SyntaxNode) (rules : List Rule) :
    (walk root rules).detections.toList = (visits [] root).flatMap fun v =>
      (rules.map (·.outcome v)).filterMap RuleOutcome.detection? := by
  simp only [walk_eq_ofOutcomes, WalkResult.ofOutcomes, outcomes, List.filterMap_flatMap]

/-- The diagnostics of a walk, visit by visit. -/
theorem diagnostics_walk_eq (root : SyntaxNode) (rules : List Rule) :
    (walk root rules).diagnostics.toList = (visits [] root).flatMap fun v =>
      (rules.map (·.outcome v)).filterMap RuleOutcome.diagnostic? := by
  simp only [walk_eq_ofOutcomes, WalkResult.ofOutcomes, outcomes, List.filterMap_flatMap]

/-- What is detected is what some rule reports at some visit. -/
theorem mem_detections_walk {root : SyntaxNode} {rules : List Rule} {d : Detection} :
    d ∈ (walk root rules).detections.toList
      ↔ ∃ v ∈ visits [] root, ∃ rule ∈ rules, rule.evaluate v = .ok (some d) := by
  simp only [walk_eq_ofOutcomes, WalkResult.ofOutcomes, outcomes, List.filterMap_flatMap,
    List.mem_flatMap, List.mem_filterMap, List.mem_map, exists_exists_and_eq_and,
    Rule.detection?_outcome_eq_some]

/-- A diagnostic is about a rule that fails at some visit. -/
theorem mem_diagnostics_walk {root : SyntaxNode} {rules : List Rule} {d : Diagnostic} :
    d ∈ (walk root rules).diagnostics.toList
      ↔ ∃ v ∈ visits [] root, ∃ rule ∈ rules, ∃ fault, rule.evaluate v = .error fault
          ∧ d = ⟨rule.id, v.node.kind, v.node.line, fault.describe⟩ := by
  simp only [walk_eq_ofOutcomes, WalkResult.ofOutcomes, outcomes, List.filterMap_flatMap,
    List.mem_flatMap, List.mem_filterMap, List.mem_map, exists_exists_and_eq_and,
    Rule.diagnostic?_outcome_eq_some]

/-- After `k` turns of a walk, the next visit is number `k` of the visits of the tree. -/
theorem head?_pending_iterate (root : SyntaxNode) (rules : List Rule) (k : Nat) :
    ((WalkState.turn rules)^[k] (.start root)).pending.head? = (visits [] root)[k]? := by
  rw [← WalkState.head?_toVisit, WalkState.toVisit_iterate, WalkState.toVisit_start,
    List.head?_drop]

/-- **The walk follows the order of the document.** The loop ends, after one turn for
each visit of the recursion over the tree, and its turns make those visits in their
order. The visits are paired with positions: each position that can be reached
through named nodes occurs once, positions come in document order, and the visit at
a position is to the node there, with the chain of its parents as ancestors. What
is collected is what the rules say, visit by visit and in the order of the list. -/
theorem walk_in_document_order (root : SyntaxNode) (rules : List Rule) :
    (WalkState.turn rules)^[(visits [] root).length] (.start root) = ⟨[], walk root rules⟩
      ∧ (∀ k, ((WalkState.turn rules)^[k] (.start root)).pending.head? = (visits [] root)[k]?)
      ∧ root.positions.length = (visits [] root).length
      ∧ root.positions.Pairwise (· < ·)
      ∧ (∀ p v, (p, v) ∈ root.positions.zip (visits [] root)
          ↔ root.Reaches p v.ancestors v.node)
      ∧ walk root rules = .ofOutcomes (outcomes root rules) := by
  refine ⟨?_, head?_pending_iterate root rules, (forall₂_positions root []).length_eq,
    root.pairwise_positions, fun p v => mem_zip_positions, walk_eq_ofOutcomes root rules⟩
  have h := WalkState.iterate_eq_run rules (.start root)
  rw [WalkState.toVisit_start] at h
  exact h

end CodeSmell
