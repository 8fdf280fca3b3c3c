/-
What the built-in rules report.

Whatever the limits are, a report of one of the rules is one of six, and it is about
the row where the visited node starts. `Reports` says which they are; later proofs
take a report apart by its cases and do not look at the rules again. Every report
carries the facts that the description of its rule names, so the description can be
filled in, and it never comes out empty.
-/
import CodeSmell.Catalogue
import CodeSmell.Proofs.Template.Segments

set_option autoImplicit false

namespace CodeSmell.Catalogue

open Template

/-- What the rules can report about a visited node. -/
inductive Reports (v : Visit) : Detection → Prop where
  | anyType : Reports v ⟨anyTypeInfo, v.node.start.row, []⟩
  | longParameterList (count : Nat) :
      Reports v ⟨longParameterListInfo, v.node.start.row, [("count", .int count)]⟩
  | magicNumber (value : Binary64) :
      Reports v ⟨magicNumberInfo, v.node.start.row,
        [("value", .str (Numeral.write Numeral.script value))]⟩
  | godClass (methods : Nat) (lines : Int) :
      Reports v ⟨godClassInfo, v.node.start.row, [("methods", .int methods), ("lines", .int lines)]⟩
  | callbackHell (depth : Nat) :
      Reports v ⟨callbackHellInfo, v.node.start.row, [("depth", .int depth)]⟩
  | nonNullAssertion : Reports v ⟨nonNullAssertionInfo, v.node.start.row, []⟩

/-- A report that is made under a condition is the one that is made. -/
theorem eq_of_ite_eq_some {condition : Prop} [Decidable condition] {rule : RuleInfo} {v : Visit}
    {facts : Facts} {d : Detection}
    (h : (if condition then report rule v facts else none) = some d) :
    ⟨rule, v.node.start.row, facts⟩ = d := by
  by_cases hcondition : condition
  · rw [if_pos hcondition] at h
    exact Option.some.inj h
  · rw [if_neg hcondition] at h
    cases h

/-- What the rule about magic numbers reports is a number literal with its value. -/
theorem eq_of_evaluate_magicNumber {t : Thresholds} {v : Visit} {d : Detection}
    (h : (magicNumber t).evaluate v = .ok (some d)) :
    ∃ value, ⟨magicNumberInfo, v.node.start.row,
      [("value", .str (Numeral.write Numeral.script value))]⟩ = d := by
  simp only [magicNumber] at h
  by_cases hliteral : v.node.isNumericLiteral
  · rw [if_pos hliteral] at h
    cases hvalue : v.node.numericValue with
    | error e =>
      rw [hvalue] at h
      cases h
    | ok value =>
      rw [hvalue] at h
      have hreport := Except.ok.inj h
      rw [← ite_not] at hreport
      exact ⟨value, eq_of_ite_eq_some hreport⟩
  · rw [if_neg hliteral] at h
    cases h

/-- What the rule about nesting reports is a function with its depth. -/
theorem eq_of_evaluate_callbackHell {t : Thresholds} {v : Visit} {d : Detection}
    (h : (callbackHell t).evaluate v = .ok (some d)) :
    ⟨callbackHellInfo, v.node.start.row, [("depth", .int (functionDepth v.ancestors))]⟩ = d := by
  simp only [callbackHell] at h
  by_cases hfunction : v.node.isFunctionLike v.parent?
  · rw [if_pos hfunction] at h
    exact eq_of_ite_eq_some (Except.ok.inj h)
  · rw [if_neg hfunction] at h
    cases h

/-- What one of the rules reports is one of the six reports. -/
theorem reports_of_evaluate {t : Thresholds} {rule : Rule} (hrule : rule ∈ rules t) {v : Visit}
    {d : Detection} (h : rule.evaluate v = .ok (some d)) : Reports v d := by
  simp only [rules, List.mem_cons, List.not_mem_nil, or_false] at hrule
  rcases hrule with rfl | rfl | rfl | rfl | rfl | rfl
  · obtain rfl := eq_of_ite_eq_some (Except.ok.inj h)
    exact .anyType
  · obtain rfl := eq_of_ite_eq_some (Except.ok.inj h)
    exact .longParameterList v.node.parameterCount
  · obtain ⟨value, rfl⟩ := eq_of_evaluate_magicNumber h
    exact .magicNumber value
  · obtain rfl := eq_of_ite_eq_some (Except.ok.inj h)
    exact .godClass v.node.methodCount v.node.rowSpan
  · obtain rfl := eq_of_evaluate_callbackHell h
    exact .callbackHell (functionDepth v.ancestors)
  · obtain rfl := eq_of_ite_eq_some (Except.ok.inj h)
    exact .nonNullAssertion

/-! ## Nodes that no rule asks about -/

/-- The kinds of nodes that some rule has something to say about. -/
def askedKinds : List String :=
  SyntaxNode.functionKinds ++ SyntaxNode.memberKinds ++ SyntaxNode.classKinds
    ++ ["number", "predefined_type", "non_null_expression"]

/-- About a node of another kind the rules have nothing to say. -/
theorem evaluate_of_not_asked {t : Thresholds} {rule : Rule} (hrule : rule ∈ rules t) {v : Visit}
    (h : v.node.kind ∉ askedKinds) : rule.evaluate v = .ok none := by
  simp only [askedKinds, List.mem_append, not_or, List.mem_cons, List.not_mem_nil] at h
  obtain ⟨⟨⟨hfunction, hmember⟩, hclass⟩, hnumber, htype, hassertion, -⟩ := h
  have hlike : v.node.isFunctionLike v.parent? = false := by
    simp [SyntaxNode.isFunctionLike, SyntaxNode.isMethod, hfunction, hmember]
  simp only [rules, List.mem_cons, List.not_mem_nil, or_false] at hrule
  rcases hrule with rfl | rfl | rfl | rfl | rfl | rfl
  · simp [anyType, SyntaxNode.isAnyKeyword, htype]
  · simp [longParameterList, hlike]
  · simp [magicNumber, SyntaxNode.isNumericLiteral, hnumber]
  · simp [godClass, SyntaxNode.isClassLike, hclass]
  · simp [callbackHell, hlike]
  · simp [nonNullAssertion, SyntaxNode.isNonNullAssertion, hassertion]

/-! ## What every report has -/

/-- No rule that is built in is without a name or a message. -/
theorem texts_ne_empty {rule : RuleInfo} (h : rule ∈ infos) :
    rule.name ≠ "" ∧ rule.message ≠ "" := by
  revert rule
  decide

namespace Reports

theorem rule_mem {v : Visit} {d : Detection} (h : Reports v d) : d.rule ∈ infos := by
  cases h <;> simp [infos]

theorem row_eq {v : Visit} {d : Detection} (h : Reports v d) : d.row = v.node.start.row := by
  cases h <;> rfl

/-- A description that begins with a text can be filled in if its other segments can,
and does not come out empty. -/
theorem exists_fill_ne_empty (rule : RuleInfo) (s : String) (segments : List Segment)
    {facts : Facts} (hs : s ≠ "")
    (written : rule.description.toList = (.text s :: segments).flatMap Segment.written)
    (plain : ∀ segment ∈ segments, segment.IsPlain)
    (defined : ∀ segment ∈ segments, segment.IsDefined facts) :
    ∃ text, fill rule.description facts = .ok text ∧ text ≠ "" := by
  refine ⟨_, fill_segments written (List.forall_mem_cons.mpr ⟨trivial, plain⟩)
    (List.forall_mem_cons.mpr ⟨trivial, defined⟩), ?_⟩
  intro hempty
  rw [List.flatMap_cons, ← String.toList_inj, String.toList_ofList] at hempty
  exact hs (String.toList_inj.mp (List.append_eq_nil_iff.mp hempty).1)

/-- The facts of a report fill in the description of its rule. -/
theorem description_filled {v : Visit} {d : Detection} (h : Reports v d) :
    ∃ text, fill d.rule.description d.facts = .ok text ∧ text ≠ "" := by
  cases h with
  | anyType =>
    exact exists_fill_ne_empty anyTypeInfo "Usage of \"any\" disables type checking." []
      (by decide) (by decide) (by decide) (by simp)
  | longParameterList count =>
    exact exists_fill_ne_empty longParameterListInfo "Function has "
      [.fact "count", .text " parameters."]
      (by decide) (by decide) (by decide) (by simp [Segment.IsDefined])
  | magicNumber value =>
    exact exists_fill_ne_empty magicNumberInfo "Unnamed numeric literal \""
      [.fact "value", .text "\" found."]
      (by decide) (by decide) (by decide) (by simp [Segment.IsDefined])
  | godClass methods lines =>
    exact exists_fill_ne_empty godClassInfo "Class has "
      [.fact "methods", .text " methods and ", .fact "lines", .text " lines."]
      (by decide) (by decide) (by decide) (by simp [Segment.IsDefined, List.lookup_cons])
  | callbackHell depth =>
    exact exists_fill_ne_empty callbackHellInfo "Function nesting depth is "
      [.fact "depth", .text "."]
      (by decide) (by decide) (by decide) (by simp [Segment.IsDefined])
  | nonNullAssertion =>
    exact exists_fill_ne_empty nonNullAssertionInfo "Usage of \"!\" operator." []
      (by decide) (by decide) (by decide) (by simp)

end Reports

end CodeSmell.Catalogue
