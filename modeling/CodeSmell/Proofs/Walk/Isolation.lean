/-
Rules do not interfere.

A walk asks many rules, and what it collects is a mixture of what they say.
`contributions` keeps apart who said what: each outcome comes with the place in
the list of the rule it is of. The share of some places is what their outcomes
amount to, in the order they came. The law is that the share of any choice of
places is the whole result of a walk with just the rules at those places. It
holds because what a rule says depends on the visit alone, and because the loop
never looks at what was collected when it decides where to go.

One rule on its own and all rules but one are the two choices of interest: what
a rule contributes does not depend on the other rules or on its place, and taking
a rule out, or putting one in, changes nothing that the others contribute.
-/
import CodeSmell.Proofs.Walk.Order

set_option autoImplicit false

namespace CodeSmell

/-! ## Shares -/

/-- What the rules say at the visits of a tree, in the order of the walk, each outcome
with the place of its rule in the list. -/
def contributions (root : SyntaxNode) (rules : List Rule) : List (Nat × RuleOutcome) :=
  (visits [] root).flatMap fun v => rules.zipIdx.map fun x => (x.2, x.1.outcome v)

/-- What the rules at some places contribute to a walk. -/
def share (root : SyntaxNode) (rules : List Rule) (places : Nat → Bool) : WalkResult :=
  .ofOutcomes (((contributions root rules).filter fun c => places c.1).map (·.2))

/-- The rules at some places of a list. -/
def rulesAt (rules : List Rule) (places : Nat → Bool) : List Rule :=
  (rules.zipIdx.filter fun x => places x.2).map (·.1)

/-- Picking outcomes by the place of their rule gives what the rules at those places
say. -/
theorem outcomes_rulesAt (root : SyntaxNode) (rules : List Rule) (places : Nat → Bool) :
    ((contributions root rules).filter fun c => places c.1).map (·.2)
      = outcomes root (rulesAt rules places) := by
  rw [contributions, List.filter_flatMap, List.map_flatMap, outcomes]
  congr 1
  funext v
  rw [List.filter_map, List.map_map, rulesAt, List.map_map]
  rfl

/-- The share of some places is the result of a walk with the rules at those places. -/
theorem share_eq_walk (root : SyntaxNode) (rules : List Rule) (places : Nat → Bool) :
    share root rules places = walk root (rulesAt rules places) := by
  rw [share, outcomes_rulesAt, walk_eq_ofOutcomes]

/-! ## Places of a list -/

/-- The rules at some places of two lists put together are those of the first list
and those of the second, whose places are counted on. -/
theorem rulesAt_append (before after : List Rule) (places : Nat → Bool) :
    rulesAt (before ++ after) places
      = rulesAt before places ++ rulesAt after (fun i => places (before.length + i)) := by
  have hafter : after.zipIdx before.length
      = after.zipIdx.map fun x => (x.1, before.length + x.2) := List.zipIdx_eq_map_add
  rw [rulesAt, List.zipIdx_append, List.filter_append, List.map_append, Nat.zero_add, hafter,
    List.filter_map, List.map_map, rulesAt, rulesAt]
  rfl

/-- All rules of a list, if all its places are picked. -/
theorem rulesAt_eq_self {rules : List Rule} {places : Nat → Bool}
    (h : ∀ i < rules.length, places i = true) : rulesAt rules places = rules := by
  have hfilter : rules.zipIdx.filter (fun x => places x.2) = rules.zipIdx :=
    List.filter_eq_self.mpr fun x hx => h x.2 (List.snd_lt_of_mem_zipIdx hx)
  rw [rulesAt, hfilter]
  exact List.zipIdx_map_fst 0 rules

/-- No rule of a list, if none of its places is picked. -/
theorem rulesAt_eq_nil {rules : List Rule} {places : Nat → Bool}
    (h : ∀ i < rules.length, places i = false) : rulesAt rules places = [] := by
  have hfilter : rules.zipIdx.filter (fun x => places x.2) = [] :=
    List.filter_eq_nil_iff.mpr fun x hx => by
      rw [h x.2 (List.snd_lt_of_mem_zipIdx hx)]
      exact Bool.false_ne_true
  rw [rulesAt, hfilter, List.map_nil]

/-- The rule at one place of a list. -/
theorem rulesAt_place (before after : List Rule) (rule : Rule) :
    rulesAt (before ++ rule :: after) (· == before.length) = [rule] := by
  have hbefore : rulesAt before (· == before.length) = [] :=
    rulesAt_eq_nil fun i hi => beq_eq_false_iff_ne.mpr (Nat.ne_of_lt hi)
  have hafter : rulesAt after (fun i => before.length + ([rule].length + i) == before.length)
      = [] :=
    rulesAt_eq_nil fun i _ => beq_eq_false_iff_ne.mpr (by rw [List.length_singleton]; omega)
  have hrule : rulesAt [rule] (fun i => before.length + i == before.length) = [rule] :=
    rulesAt_eq_self fun i hi => by
      obtain rfl := Nat.lt_one_iff.mp hi
      rw [Nat.add_zero]
      exact beq_self_eq_true _
  rw [List.append_cons, List.append_assoc, rulesAt_append, rulesAt_append, hbefore, hrule, hafter,
    List.nil_append, List.append_nil]

/-- The rules at all places of a list but one. -/
theorem rulesAt_otherPlaces (before after : List Rule) (rule : Rule) :
    rulesAt (before ++ rule :: after) (· != before.length) = before ++ after := by
  have hbefore : rulesAt before (· != before.length) = before :=
    rulesAt_eq_self fun i hi => bne_iff_ne.mpr (Nat.ne_of_lt hi)
  have hafter : rulesAt after (fun i => before.length + ([rule].length + i) != before.length)
      = after :=
    rulesAt_eq_self fun i _ => bne_iff_ne.mpr (by rw [List.length_singleton]; omega)
  have hrule : rulesAt [rule] (fun i => before.length + i != before.length) = [] :=
    rulesAt_eq_nil fun i hi => by
      obtain rfl := Nat.lt_one_iff.mp hi
      rw [Nat.add_zero]
      exact bne_self_eq_false _
  rw [List.append_cons, List.append_assoc, rulesAt_append, rulesAt_append, hbefore, hrule, hafter,
    List.nil_append]

/-! ## Where the loop goes -/

/-- What is pending after a turn depends on what was pending before it, not on the
rules or on what was collected. -/
theorem pending_turn_eq {s s' : WalkState} (rules rules' : List Rule)
    (h : s.pending = s'.pending) : (s.turn rules).pending = (s'.turn rules').pending := by
  obtain ⟨pending, collected⟩ := s
  obtain ⟨pending', collected'⟩ := s'
  obtain rfl : pending = pending' := h
  cases pending with
  | nil => rfl
  | cons v rest => rfl

/-- The loop visits the same nodes with the same ancestors whatever the rules are. -/
theorem pending_iterate_eq (root : SyntaxNode) (rules rules' : List Rule) (k : Nat) :
    ((WalkState.turn rules)^[k] (.start root)).pending
      = ((WalkState.turn rules')^[k] (.start root)).pending := by
  induction k with
  | zero => rfl
  | succ k ih =>
    rw [Function.iterate_succ_apply', Function.iterate_succ_apply']
    exact pending_turn_eq rules rules' ih

/-! ## One rule at one node -/

/-- A rule shown a node contributes nothing, one detection, or one diagnostic with
one warning, as it says nothing, reports, or fails. -/
theorem ofOutcomes_outcome (rule : Rule) (v : Visit) :
    (rule.evaluate v = .ok none ∧ WalkResult.ofOutcomes [rule.outcome v] = ⟨#[], #[], #[]⟩)
      ∨ (∃ d, rule.evaluate v = .ok (some d)
          ∧ WalkResult.ofOutcomes [rule.outcome v] = ⟨#[d], #[], #[]⟩)
      ∨ (∃ fault d, rule.evaluate v = .error fault
          ∧ d = ⟨rule.id, v.node.kind, v.node.line, fault.describe⟩
          ∧ WalkResult.ofOutcomes [rule.outcome v] = ⟨#[], #[d], #[d.warning]⟩) := by
  unfold Rule.outcome
  cases h : rule.evaluate v with
  | error fault => exact .inr (.inr ⟨fault, _, rfl, rfl, rfl⟩)
  | ok said =>
    cases said with
    | none => exact .inl ⟨rfl, rfl⟩
    | some d => exact .inr (.inl ⟨d, rfl, rfl⟩)

/-- **Rules do not interfere.** A pair of a visited node and a rule contributes
nothing, one detection, or one diagnostic with one warning. A walk is made of these
contributions; those of the rules at any places are, in their order, the whole
result of a walk with just these rules, so those of one rule are the result of a
walk with that rule alone, and putting a rule in leaves what the others contribute.
The nodes that the loop has pending after any number of turns do not depend on the
rules at all. -/
theorem rules_do_not_interfere (root : SyntaxNode) (rules : List Rule) :
    (∀ (rule : Rule) (v : Visit),
      (rule.evaluate v = .ok none ∧ WalkResult.ofOutcomes [rule.outcome v] = ⟨#[], #[], #[]⟩)
        ∨ (∃ d, rule.evaluate v = .ok (some d)
            ∧ WalkResult.ofOutcomes [rule.outcome v] = ⟨#[d], #[], #[]⟩)
        ∨ (∃ fault d, rule.evaluate v = .error fault
            ∧ d = ⟨rule.id, v.node.kind, v.node.line, fault.describe⟩
            ∧ WalkResult.ofOutcomes [rule.outcome v] = ⟨#[], #[d], #[d.warning]⟩))
      ∧ walk root rules = share root rules (fun _ => true)
      ∧ (∀ places, share root rules places = walk root (rulesAt rules places))
      ∧ (∀ i : Fin rules.length, share root rules (· == i.val) = walk root [rules[i]])
      ∧ (∀ before rule after, share root (before ++ rule :: after) (· != before.length)
          = walk root (before ++ after))
      ∧ (∀ rules' k, ((WalkState.turn rules)^[k] (.start root)).pending
          = ((WalkState.turn rules')^[k] (.start root)).pending) := by
  refine ⟨ofOutcomes_outcome, ?_, share_eq_walk root rules, ?_, ?_,
    pending_iterate_eq root rules⟩
  · rw [share_eq_walk, rulesAt_eq_self fun _ _ => rfl]
  · intro i
    have hsplit : rules = rules.take i.val ++ rules[i] :: rules.drop (i.val + 1) := by
      rw [Fin.getElem_fin, List.getElem_cons_drop, List.take_append_drop]
    have hlength : (rules.take i.val).length = i.val := by
      rw [List.length_take, Nat.min_eq_left (Nat.le_of_lt i.isLt)]
    have hplace := rulesAt_place (rules.take i.val) (rules.drop (i.val + 1)) rules[i]
    rw [← hsplit, hlength] at hplace
    rw [share_eq_walk, hplace]
  · intro before rule after
    rw [share_eq_walk, rulesAt_otherPlaces]

end CodeSmell
