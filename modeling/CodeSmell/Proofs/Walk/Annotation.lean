/-
Comments and rows do not matter to a walk.

Main statement: if comments are put into a tree and everything else is moved down by
some rows, the walk detects the same things with the same facts, and the same rules
fail, in the same order, each so many rows further down. A rule that is shown a node
says of its counterpart what it says of the node, the row apart, since it is made of
questions that have the same answer for both. About a comment no rule has anything to
say, and nothing is inside one, so the visits that come in add nothing. The induction
is over the nesting of the first tree, and inside a node along the list of children.
-/
import CodeSmell.Proofs.Catalogue.Detections
import CodeSmell.Proofs.Tree.Annotation
import CodeSmell.Proofs.Walk.Order

set_option autoImplicit false

namespace CodeSmell

open SyntaxNode Catalogue

/-! ## Outcomes -/

/-- The detection, `k` rows further down. -/
def Detection.moved (k : Int) (d : Detection) : Detection := { d with row := d.row + k }

/-- The diagnostic, `k` lines further down. -/
def Diagnostic.moved (k : Int) (d : Diagnostic) : Diagnostic := { d with line := d.line + k }

/-- What a rule says, `k` rows further down. -/
def RuleOutcome.moved (k : Int) : RuleOutcome → RuleOutcome
  | silent => silent
  | detected d => detected (d.moved k)
  | failed d => failed (d.moved k)

/-- The second visit is to the counterpart of the first one's node, and counterparts
are around it. -/
structure Visit.Annotated (k : Int) (v w : Visit) : Prop where
  node : v.node.Annotated k w.node
  ancestors : List.Forall₂ (SyntaxNode.Annotated k) v.ancestors w.ancestors

namespace Visit.Annotated

variable {k : Int} {v w : Visit} (h : v.Annotated k w)

include h

theorem parent? : Option.Rel (SyntaxNode.Annotated k) v.parent? w.parent? := rel_head? h.ancestors

/-- What is reported where a node starts is reported where its counterpart starts. -/
theorem report_eq (rule : RuleInfo) (facts : Facts) :
    report rule w facts = (report rule v facts).map (Detection.moved k) := by
  rw [report, report, h.node.moved.start]
  rfl

theorem ite_report_eq (condition : Prop) [Decidable condition] (rule : RuleInfo) (facts : Facts) :
    (if condition then report rule w facts else none)
      = (if condition then report rule v facts else none).map (Detection.moved k) := by
  by_cases hcondition : condition
  · rw [if_pos hcondition, if_pos hcondition, h.report_eq]
  · rw [if_neg hcondition, if_neg hcondition, Option.map_none]

/-- A built-in rule says of a counterpart what it says of the node. -/
theorem evaluate_eq {t : Thresholds} {rule : Rule} (hrule : rule ∈ rules t) :
    rule.evaluate w = (rule.evaluate v).map (Option.map (Detection.moved k)) := by
  simp only [rules, List.mem_cons, List.not_mem_nil, or_false] at hrule
  rcases hrule with rfl | rfl | rfl | rfl | rfl | rfl
  · simp only [anyType, h.node.isAnyKeyword_eq, h.ite_report_eq]
    rfl
  · simp only [longParameterList, h.node.isFunctionLike_eq h.parent?, h.node.parameterCount_eq,
      h.ite_report_eq]
    rfl
  · have hcontext : w.parent?.any (·.isDeclarationContext)
        = v.parent?.any (·.isDeclarationContext) :=
      any_eq_of_rel (fun _ _ hparent => hparent.isDeclarationContext_eq) h.parent?
    simp only [magicNumber, h.node.isNumericLiteral_eq, h.node.numericValue_eq, hcontext]
    by_cases hliteral : v.node.isNumericLiteral = true
    · rw [if_pos hliteral, if_pos hliteral]
      cases v.node.numericValue with
      | error e => rfl
      | ok value =>
        dsimp only
        by_cases hexempt : (t.exempts value || v.parent?.any (·.isDeclarationContext)) = true
        · rw [if_pos hexempt, if_pos hexempt]
          rfl
        · rw [if_neg hexempt, if_neg hexempt, h.report_eq]
          rfl
    · rw [if_neg hliteral, if_neg hliteral]
      rfl
  · simp only [godClass, h.node.isClassLike_eq, h.node.methodCount_eq, h.node.rowSpan_eq,
      h.ite_report_eq]
    rfl
  · simp only [callbackHell, h.node.isFunctionLike_eq h.parent?, functionDepth_eq h.ancestors]
    by_cases hfunction : v.node.isFunctionLike v.parent? = true
    · rw [if_pos hfunction, if_pos hfunction, h.ite_report_eq]
      rfl
    · rw [if_neg hfunction, if_neg hfunction]
      rfl
  · simp only [nonNullAssertion, h.node.isNonNullAssertion_eq, h.ite_report_eq]
    rfl

/-- What comes of showing a built-in rule a counterpart is what comes of the node. -/
theorem outcome_eq {t : Thresholds} {rule : Rule} (hrule : rule ∈ rules t) :
    rule.outcome w = (rule.outcome v).moved k := by
  unfold Rule.outcome
  rw [h.evaluate_eq hrule]
  cases rule.evaluate v with
  | error fault =>
    have hline : w.node.line = v.node.line + k := by
      rw [line, line, h.node.moved.start]
      omega
    simp only [Except.map, h.node.moved.kind, hline]
    rfl
  | ok said =>
    cases said with
    | none => rfl
    | some d => rfl

end Visit.Annotated

/-- About a comment the built-in rules have nothing to say. -/
theorem evaluate_of_isComment {t : Thresholds} {rule : Rule} (hrule : rule ∈ rules t)
    {c : SyntaxNode} (h : c.IsComment) (ancestors : List SyntaxNode) :
    rule.evaluate ⟨c, ancestors⟩ = .ok none := by
  refine evaluate_of_not_asked hrule ?_
  rw [h.kind]
  decide

/-! ## The walk -/

section

variable {α : Type} {k : Int} {collect : Visit → List α} {move : α → α}
  (hnode : ∀ v w, Visit.Annotated k v w → collect w = (collect v).map move)
  (hcomment : ∀ c ancestors, IsComment c → collect ⟨c, ancestors⟩ = [])

include hcomment in
/-- At a comment and inside it nothing is collected. -/
theorem collect_visits_comment {c : SyntaxNode} (h : c.IsComment) (ancestors : List SyntaxNode) :
    (visits ancestors c).flatMap collect = [] := by
  rw [visits_eq, namedChildren, h.children]
  exact List.flatMap_singleton _ _ ▸ hcomment c ancestors h

include hnode hcomment in
/-- What is collected in a tree with comments put in is what is collected in the tree. -/
theorem collect_visits {n m : SyntaxNode} (h : n.Annotated k m) {around beyond : List SyntaxNode}
    (hancestors : List.Forall₂ (SyntaxNode.Annotated k) around beyond) :
    (visits beyond m).flatMap collect = ((visits around n).flatMap collect).map move := by
  induction n using induct_children generalizing m around beyond with
  | node n ih =>
    rw [visits_eq, visits_eq, List.flatMap_cons, List.flatMap_cons, List.map_append,
      hnode ⟨n, around⟩ ⟨m, beyond⟩ ⟨h, hancestors⟩, List.flatMap_assoc, List.flatMap_assoc]
    congr 1
    have hall : List.Forall₂ (SyntaxNode.Annotated k) (n :: around) (m :: beyond) :=
      .cons h hancestors
    have hchildren := h.children
    unfold namedChildren
    generalize n.children = ns, m.children = ms at ih hchildren
    induction hchildren with
    | nil => rfl
    | comment isComment _ ihrest =>
      rw [List.filter_cons_of_pos isComment.named, List.flatMap_cons,
        collect_visits_comment hcomment isComment, List.nil_append, ihrest ih]
    | @cons a b as bs head _ ihrest =>
      obtain ⟨iha, ihas⟩ := List.forall_mem_cons.mp ih
      by_cases ha : a.named = true
      · have hb : b.named = true := head.moved.named.trans ha
        rw [List.filter_cons_of_pos ha, List.filter_cons_of_pos hb, List.flatMap_cons,
          List.flatMap_cons, List.map_append, iha head hall, ihrest ihas]
      · have hb : ¬b.named = true := head.moved.named ▸ ha
        rw [List.filter_cons_of_neg ha, List.filter_cons_of_neg hb, ihrest ihas]

end

/-- What is said at a visit and at its counterpart, as far as `part` takes it. -/
theorem filterMap_outcomes_eq {α : Type} {part : RuleOutcome → Option α} {move : α → α} {k : Int}
    (hpart : ∀ o, part (o.moved k) = (part o).map move) {t : Thresholds} {v w : Visit}
    (h : v.Annotated k w) :
    ((rules t).map (·.outcome w)).filterMap part
      = (((rules t).map (·.outcome v)).filterMap part).map move := by
  rw [List.filterMap_map, List.filterMap_map, List.map_filterMap]
  refine List.filterMap_congr fun rule hrule => ?_
  exact (congrArg part (h.outcome_eq hrule)).trans (hpart _)

theorem filterMap_outcomes_comment {α : Type} {part : RuleOutcome → Option α}
    (hsilent : part .silent = none) (t : Thresholds) {c : SyntaxNode} (h : c.IsComment)
    (ancestors : List SyntaxNode) :
    ((rules t).map (·.outcome ⟨c, ancestors⟩)).filterMap part = [] := by
  rw [List.filterMap_eq_nil_iff, List.forall_mem_map]
  intro rule hrule
  rw [Rule.outcome, evaluate_of_isComment hrule h, hsilent]

/-- **Comments and rows do not matter.** If comments are put into a tree, any number of
them at any place, and everything else is moved down by `k` rows, the walk with the
built-in rules, whatever their limits, detects the same things with the same facts, in
the same order and each `k` rows further down, and it has the same diagnostics, each
`k` lines further down. -/
theorem comments_do_not_matter (t : Thresholds) {k : Int} {root annotated : SyntaxNode}
    (h : root.Annotated k annotated) :
    (walk annotated (rules t)).detections.toList
        = (walk root (rules t)).detections.toList.map (Detection.moved k)
      ∧ (walk annotated (rules t)).diagnostics.toList
        = (walk root (rules t)).diagnostics.toList.map (Diagnostic.moved k) := by
  have hdetection (o : RuleOutcome) :
      (o.moved k).detection? = o.detection?.map (Detection.moved k) := by
    cases o <;> rfl
  have hdiagnostic (o : RuleOutcome) :
      (o.moved k).diagnostic? = o.diagnostic?.map (Diagnostic.moved k) := by
    cases o <;> rfl
  constructor
  · rw [detections_walk_eq, detections_walk_eq]
    exact collect_visits (fun v w hv => filterMap_outcomes_eq hdetection hv)
      (fun c ancestors hc => filterMap_outcomes_comment rfl t hc ancestors) h .nil
  · rw [diagnostics_walk_eq, diagnostics_walk_eq]
    exact collect_visits (fun v w hv => filterMap_outcomes_eq hdiagnostic hv)
      (fun c ancestors hc => filterMap_outcomes_comment rfl t hc ancestors) h .nil

/-- A class with an accessor whose one parameter has the type `any`, the whole so many
rows down, and some comments at the head of every list of children. -/
def classTree (comments : List SyntaxNode) (row : Int) : SyntaxNode :=
  let node (kind : String) (field : Option String) (offset : Int) (children : List SyntaxNode) :
      SyntaxNode :=
    { SyntaxNode.leaf kind with
      start := ⟨row + offset, 0⟩, stop := ⟨row + offset + 2, 0⟩
      field := field, children := comments ++ children }
  node "program" none 0
    [node "class_declaration" none 0
      [node "class_body" (some "body") 1
        [node "method_definition" none 1
          [{ SyntaxNode.leaf "get" with
              named := false, start := ⟨row + 1, 0⟩, stop := ⟨row + 1, 3⟩ },
           node "formal_parameters" (some "parameters") 2
            [{ node "predefined_type" none 2 [] with
                text := some (.ofBytes ⟨#[0x61, 0x6E, 0x79]⟩) }]]]]]

theorem comments_do_not_matter_classTree :
    (classTree [] 0).Annotated 3 (classTree [.leaf "comment"] 3)
      ∧ (walk (classTree [.leaf "comment"] 3) (rules .standard)).detections.toList
        = (walk (classTree [] 0) (rules .standard)).detections.toList.map (Detection.moved 3)
      ∧ (walk (classTree [.leaf "comment"] 3) (rules .standard)).diagnostics.toList
        = (walk (classTree [] 0) (rules .standard)).diagnostics.toList.map
            (Diagnostic.moved 3) := by
  have hcomment : (SyntaxNode.leaf "comment").IsComment := ⟨rfl, rfl, rfl, rfl⟩
  have h : (classTree [] 0).Annotated 3 (classTree [.leaf "comment"] 3) := by
    -- Down to the method, whose list of children has two members beside the comment.
    refine .node ⟨rfl, rfl, rfl, rfl, rfl, rfl⟩ (.comment hcomment (.cons ?_ .nil))
    refine .node ⟨rfl, rfl, rfl, rfl, rfl, rfl⟩ (.comment hcomment (.cons ?_ .nil))
    refine .node ⟨rfl, rfl, rfl, rfl, rfl, rfl⟩ (.comment hcomment (.cons ?_ .nil))
    refine .node ⟨rfl, rfl, rfl, rfl, rfl, rfl⟩ (.comment hcomment (.cons ?_ (.cons ?_ .nil)))
    · exact .node ⟨rfl, rfl, rfl, rfl, rfl, rfl⟩ .nil
    · refine .node ⟨rfl, rfl, rfl, rfl, rfl, rfl⟩ (.comment hcomment (.cons ?_ .nil))
      exact .node ⟨rfl, rfl, rfl, rfl, rfl, rfl⟩ (.comment hcomment .nil)
  exact ⟨h, comments_do_not_matter .standard h⟩

end CodeSmell
