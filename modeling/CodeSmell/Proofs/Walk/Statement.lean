/-
Statements of a program do not interact.

All that a walk has still to visit lies on one stack, and every rule is shown what is
around a node. Main statement: the walk over a program of the statements `a ++ b`
collects what the walk over a program of `a` collects and then what the one over a
program of `b` does, with the same facts and rows.

The reason is that a program reads to every rule as nothing at all would: it is no
class body, no function and no declaration that names a literal. So what is said at a
node inside a statement is what is said where the statement is the whole tree, and a
walk over a program is the walks over its statements, one after another.
-/
import CodeSmell.Proofs.Analysis.Conformance

set_option autoImplicit false

namespace CodeSmell

open SyntaxNode Catalogue

/-! ## More around a visit -/

/-- The visit, with more nodes around those that are around it. -/
def Visit.within (v : Visit) (outside : List SyntaxNode) : Visit :=
  { v with ancestors := v.ancestors ++ outside }

theorem Visit.parent?_within (v : Visit) (n : SyntaxNode) :
    (v.within [n]).parent? = v.parent?.or (some n) := by
  rw [parent?, within, List.head?_append]
  rfl

/-- A tree that stands in further nodes is visited as the tree alone is, with those
nodes around. -/
theorem visits_append (n : SyntaxNode) (around outside : List SyntaxNode) :
    visits (around ++ outside) n = (visits around n).map (·.within outside) := by
  induction n using induct_children generalizing around with
  | node n ih =>
    rw [visits_eq, visits_eq, List.map_cons, List.map_flatMap]
    congr 1
    refine List.flatMap_congr fun c hc => ?_
    exact ih c (List.mem_filter.mp hc).1 (n :: around)

/-! ## A program around a visit -/

namespace SyntaxNode

/-- A program of some statements; in all else it is like `shape`. -/
def program (shape : SyntaxNode) (statements : List SyntaxNode) : SyntaxNode :=
  { shape with kind := "program", children := statements }

section

variable {root : SyntaxNode} (h : root.kind = "program")

include h

theorem not_mem_askedKinds_of_program : root.kind ∉ askedKinds := by
  rw [h]
  decide

theorem inClassBody_or_program (parent : Option SyntaxNode) :
    inClassBody (parent.or (some root)) = inClassBody parent := by
  cases parent with
  | none =>
    rw [Option.none_or, inClassBody, Option.any_some, h]
    rfl
  | some p => rfl

theorem isMethod_or_program (parent : Option SyntaxNode) (n : SyntaxNode) :
    isMethod (parent.or (some root)) n = isMethod parent n := by
  rw [isMethod, isMethod, inClassBody_or_program h]

theorem isFunctionLike_or_program (parent : Option SyntaxNode) (n : SyntaxNode) :
    isFunctionLike (parent.or (some root)) n = isFunctionLike parent n := by
  rw [isFunctionLike, isFunctionLike, isMethod_or_program h]

theorem isDeclarationContext_or_program (parent : Option SyntaxNode) :
    (parent.or (some root)).any (·.isDeclarationContext)
      = parent.any (·.isDeclarationContext) := by
  cases parent with
  | none =>
    rw [Option.none_or, Option.any_some, isDeclarationContext, h]
    rfl
  | some p => rfl

end

end SyntaxNode

section

variable {root : SyntaxNode} (h : root.kind = "program")

include h

/-- A program is no function, so it adds nothing to the functions around a node. -/
theorem functionDepth_append_program (around : List SyntaxNode) :
    functionDepth (around ++ [root]) = functionDepth around := by
  induction around with
  | nil =>
    have hroot : root.isFunctionLike none = false := by
      rw [isFunctionLike, isMethod, h]
      simp [functionKinds, memberKinds]
    simp only [List.nil_append, functionDepth, List.head?_nil, hroot]
    rfl
  | cons n around ih =>
    rw [List.cons_append, functionDepth, functionDepth, ih, List.head?_append, List.head?_singleton,
      isFunctionLike_or_program h]

namespace Visit

/-- A rule says of a node in a program what it says of the node where nothing is around
it. -/
theorem evaluate_within {t : Thresholds} {rule : Rule} (hrule : rule ∈ rules t) (v : Visit) :
    rule.evaluate (v.within [root]) = rule.evaluate v := by
  have hparent := v.parent?_within root
  have hnode : (v.within [root]).node = v.node := rfl
  simp only [rules, List.mem_cons, List.not_mem_nil, or_false] at hrule
  rcases hrule with rfl | rfl | rfl | rfl | rfl | rfl
  · rfl
  · simp only [longParameterList, hparent, hnode, isFunctionLike_or_program h]
    rfl
  · simp only [magicNumber, hparent, hnode, isDeclarationContext_or_program h]
    rfl
  · rfl
  · have hdepth : functionDepth (v.within [root]).ancestors = functionDepth v.ancestors :=
      functionDepth_append_program h v.ancestors
    simp only [callbackHell, hparent, hnode, isFunctionLike_or_program h, hdepth]
    rfl
  · rfl

theorem outcome_within {t : Thresholds} {rule : Rule} (hrule : rule ∈ rules t) (v : Visit) :
    rule.outcome (v.within [root]) = rule.outcome v := by
  unfold Rule.outcome
  rw [evaluate_within h hrule]
  rfl

end Visit

end

/-! ## The walk over a program -/

/-- No rule has anything to say about a program itself. -/
theorem ofOutcomes_program {root : SyntaxNode} (h : root.kind = "program") (t : Thresholds)
    (around : List SyntaxNode) :
    WalkResult.ofOutcomes ((rules t).map (·.outcome ⟨root, around⟩)) = .empty := by
  have hsilent : ∀ rule ∈ rules t, rule.outcome ⟨root, around⟩ = .silent := by
    intro rule hrule
    rw [Rule.outcome, evaluate_of_not_asked hrule (not_mem_askedKinds_of_program h)]
  rw [List.map_congr_left hsilent]
  rfl

/-- What is said inside a program is what is said in its statements, each of them on its
own. -/
theorem walk_program (t : Thresholds) (shape : SyntaxNode) (statements : List SyntaxNode) :
    walk (shape.program statements) (rules t)
      = .ofOutcomes ((statements.filter (·.named)).flatMap (outcomes · (rules t))) := by
  have hkind : (shape.program statements).kind = "program" := rfl
  have hstatement (s : SyntaxNode) :
      ((visits [shape.program statements] s).flatMap fun v => (rules t).map (·.outcome v))
        = outcomes s (rules t) := by
    rw [← List.nil_append [shape.program statements], visits_append, List.flatMap_map, outcomes]
    refine List.flatMap_congr fun v _ => List.map_congr_left fun rule hrule => ?_
    exact Visit.outcome_within hkind hrule v
  rw [walk_eq_ofOutcomes, outcomes, visits_eq, List.flatMap_cons, WalkResult.ofOutcomes_append,
    ofOutcomes_program hkind, WalkResult.empty_append, List.flatMap_assoc]
  simp only [hstatement]
  rfl

theorem walk_program_append (t : Thresholds) (whole first second : SyntaxNode)
    (a b : List SyntaxNode) :
    walk (whole.program (a ++ b)) (rules t)
      = (walk (first.program a) (rules t)).append (walk (second.program b) (rules t)) := by
  rw [walk_program, walk_program, walk_program, List.filter_append, List.flatMap_append,
    WalkResult.ofOutcomes_append]

/-- **Statements do not interact.** Take any limits and any statements `a` and `b`. What
is detected in a program of `a ++ b` is what is detected in a program of `a` and then
what is detected in one of `b`, whatever else the three roots are, and likewise for the
diagnostics and the warnings. So a statement has the same findings whatever statements
are before and behind it. -/
theorem statements_do_not_interact (t : Thresholds) (whole first second : SyntaxNode) :
    (∀ a b : List SyntaxNode,
      (walk (whole.program (a ++ b)) (rules t)).detections
          = (walk (first.program a) (rules t)).detections
            ++ (walk (second.program b) (rules t)).detections
        ∧ (walk (whole.program (a ++ b)) (rules t)).diagnostics
          = (walk (first.program a) (rules t)).diagnostics
            ++ (walk (second.program b) (rules t)).diagnostics
        ∧ (walk (whole.program (a ++ b)) (rules t)).warnings
          = (walk (first.program a) (rules t)).warnings
            ++ (walk (second.program b) (rules t)).warnings)
      ∧ ∀ (alone c : SyntaxNode) (before after : List SyntaxNode), ∃ earlier findings later,
          Finding.ofDetections (walk (first.program before) (rules t)).detections.toList
              = .ok earlier
            ∧ Finding.ofDetections (walk (alone.program [c]) (rules t)).detections.toList
              = .ok findings
            ∧ Finding.ofDetections (walk (second.program after) (rules t)).detections.toList
              = .ok later
            ∧ Finding.ofDetections
                (walk (whole.program (before ++ c :: after)) (rules t)).detections.toList
              = .ok (earlier ++ (findings ++ later)) := by
  constructor
  · intro a b
    rw [walk_program_append t whole first second]
    exact ⟨rfl, rfl, rfl⟩
  · intro alone c before after
    obtain ⟨earlier, hearlier⟩ := Finding.exists_ofDetections_walk (first.program before) t
    obtain ⟨findings, hfindings⟩ := Finding.exists_ofDetections_walk (alone.program [c]) t
    obtain ⟨later, hlater⟩ := Finding.exists_ofDetections_walk (second.program after) t
    refine ⟨earlier, findings, later, hearlier, hfindings, hlater, ?_⟩
    rw [walk_program_append t whole first whole before (c :: after), ← List.singleton_append,
      walk_program_append t whole alone second, WalkResult.append, WalkResult.append,
      Array.toList_append, Array.toList_append]
    exact Finding.ofDetections_append hearlier (Finding.ofDetections_append hfindings hlater)

end CodeSmell
