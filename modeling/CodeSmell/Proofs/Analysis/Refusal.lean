/-
Which trees are refused, and for what.

A source has no report if its tree cannot be trusted. Main statement: a tree with
right marks is refused exactly if some node anywhere in it, named or not, is an
error or a missing node, and the refusal tells the place of the first such node in
document order; a report is only ever about a tree without any.
-/
import CodeSmell.Analysis
import CodeSmell.Proofs.Tree.Fault

set_option autoImplicit false

namespace CodeSmell

open SyntaxNode

/-! ## Trees -/

/-- The refusal of a tree for a node in it. -/
def SyntaxNode.failureAt (variant : Variant) (bad : SyntaxNode) : ParseFailure :=
  { line := bad.start.row + 1
    column := bad.start.column + 1
    variant := variant.text
    detail := bad.faultDetail }

/-- A tree with right marks is refused for the first faulty node in document order. -/
theorem refusal?_eq {root : SyntaxNode} (marked : root.FaultsMarked) (variant : Variant) :
    root.refusal? variant = (root.preorder.find? isFaulty).map (failureAt variant) := by
  unfold refusal?
  by_cases herror : root.hasError = true
  · obtain ⟨m, hm, hfaulty⟩ := (hasError_iff_exists_faulty marked).mp herror
    have hsome : (root.preorder.find? isFaulty).isSome = true :=
      List.find?_isSome.mpr ⟨m, hm, hfaulty⟩
    obtain ⟨bad, hbad⟩ := Option.isSome_iff_exists.mp hsome
    rw [if_pos herror, firstFault_eq marked, hbad]
    rfl
  · rw [if_neg herror, find?_preorder_eq_none marked herror]
    rfl

/-! ## Sources -/

namespace SourceParser

variable {parser : SourceParser} {variant : Variant} {source : String}

/-- A source has no tree exactly if its tree is refused. -/
theorem tree_eq_error_iff {failure : ParseFailure} :
    parser.tree variant source = .error failure
      ↔ (parser variant source).refusal? variant = some failure := by
  simp only [tree]
  cases (parser variant source).refusal? variant with
  | none => simp
  | some found => simp

/-- A source has the tree that its parser gives exactly if that is not refused. -/
theorem tree_eq_ok_iff {root : SyntaxNode} :
    parser.tree variant source = .ok root
      ↔ (parser variant source).refusal? variant = none ∧ parser variant source = root := by
  simp only [tree]
  cases (parser variant source).refusal? variant with
  | none => simp
  | some found => simp

/-- With right marks, a source has no tree exactly if some node is faulty. -/
theorem exists_tree_eq_error_iff (marked : (parser variant source).FaultsMarked) :
    (∃ failure, parser.tree variant source = .error failure)
      ↔ ∃ n ∈ (parser variant source).preorder, n.isFaulty = true := by
  simp only [tree_eq_error_iff, refusal?_eq marked]
  rw [← Option.isSome_iff_exists, Option.isSome_map, List.find?_isSome]

/-- With right marks, a source has no tree because of the first faulty node. -/
theorem eq_failureAt_of_tree_eq_error (marked : (parser variant source).FaultsMarked)
    {failure : ParseFailure} (h : parser.tree variant source = .error failure) :
    ∃ before bad after, (parser variant source).preorder = before ++ bad :: after
      ∧ (∀ n ∈ before, ¬n.isFaulty = true) ∧ bad.isFaulty = true
      ∧ (parser variant source).firstFault = some bad ∧ failure = bad.failureAt variant := by
  rw [tree_eq_error_iff, refusal?_eq marked, Option.map_eq_some_iff] at h
  obtain ⟨bad, hfind, rfl⟩ := h
  obtain ⟨hbad, before, after, hsplit, hbefore⟩ := List.find?_eq_some_iff_append.mp hfind
  refine ⟨before, bad, after, hsplit, ?_, hbad, ?_, rfl⟩
  · intro n hn
    simpa using hbefore n hn
  · rw [firstFault_eq marked, hfind]

/-- With right marks, a source with a tree has no faulty node in it. -/
theorem sound_of_tree_eq_ok (marked : (parser variant source).FaultsMarked) {root : SyntaxNode}
    (h : parser.tree variant source = .ok root) : ∀ n ∈ root.preorder, ¬n.isFaulty = true := by
  obtain ⟨hrefusal, rfl⟩ := tree_eq_ok_iff.mp h
  rw [refusal?_eq marked, Option.map_eq_none_iff] at hrefusal
  exact List.find?_eq_none.mp hrefusal

end SourceParser

/-- What comes of a source with a tree is what comes of the tree. -/
theorem analyze_of_tree {parser : SourceParser} {source : String} {filename : Option String}
    {root : SyntaxNode} (rules : List Rule)
    (h : parser.tree (Variant.forFilename filename) source = .ok root) :
    analyze parser source filename rules
      = (Report.ofTree source filename rules root).mapError .description := by
  rw [analyze, analyzeWith, h]
  rfl

/-- The report on the tree of a source is the report on the source. -/
theorem analyze_of_report {parser : SourceParser} {source : String} {filename : Option String}
    {root : SyntaxNode} {rules : List Rule} {report : Report}
    (htree : parser.tree (Variant.forFilename filename) source = .ok root)
    (hreport : Report.ofTree source filename rules root = .ok report) :
    analyze parser source filename rules = .ok report := by
  rw [analyze_of_tree rules htree, hreport]
  rfl

/-- A source is reported on only if its tree is not refused, and the report is on that
tree. -/
theorem analyze_eq_ok {parser : SourceParser} {source : String} {filename : Option String}
    {rules : List Rule} {report : Report}
    (h : analyze parser source filename rules = .ok report) :
    ∃ root, parser.tree (Variant.forFilename filename) source = .ok root
      ∧ Report.ofTree source filename rules root = .ok report := by
  cases htree : parser.tree (Variant.forFilename filename) source with
  | error failure =>
    rw [analyze, analyzeWith, htree] at h
    cases h
  | ok root =>
    rw [analyze_of_tree rules htree] at h
    refine ⟨root, rfl, ?_⟩
    cases hreport : Report.ofTree source filename rules root with
    | error e =>
      rw [hreport] at h
      cases h
    | ok r =>
      rw [hreport] at h
      exact congrArg _ (Except.ok.inj h)

/-- **Refused at the first fault.** If the marks of a parser's tree are right, the
source is refused exactly if some node of the tree is an error or a missing node. The
refusal is about the first of these in document order, which the search that leaves
out unmarked subtrees finds, and it counts the place of that node from one. A report
on the source is a report on the tree, and then no node of the tree is faulty. -/
theorem refused_at_first_fault (parser : SourceParser) (variant : Variant) (source : String)
    (marked : (parser variant source).FaultsMarked) :
    ((∃ failure, parser.tree variant source = .error failure)
        ↔ ∃ n ∈ (parser variant source).preorder, n.isError = true ∨ n.isMissing = true)
      ∧ (∀ failure, parser.tree variant source = .error failure →
          ∃ before bad after, (parser variant source).preorder = before ++ bad :: after
            ∧ (∀ n ∈ before, n.isError = false ∧ n.isMissing = false)
            ∧ (bad.isError = true ∨ bad.isMissing = true)
            ∧ (parser variant source).firstFault = some bad
            ∧ failure.line = bad.start.row + 1 ∧ failure.column = bad.start.column + 1)
      ∧ (∀ filename rules report, Variant.forFilename filename = variant →
          analyze parser source filename rules = .ok report →
          Report.ofTree source filename rules (parser variant source) = .ok report
            ∧ ∀ n ∈ (parser variant source).preorder,
                n.isError = false ∧ n.isMissing = false) := by
  refine ⟨?_, ?_, ?_⟩
  · simp only [SourceParser.exists_tree_eq_error_iff marked, isFaulty_iff]
  · intro failure h
    obtain ⟨before, bad, after, hsplit, hbefore, hbad, hfirst, rfl⟩ :=
      SourceParser.eq_failureAt_of_tree_eq_error marked h
    exact ⟨before, bad, after, hsplit, fun n hn => not_isFaulty_iff.mp (hbefore n hn),
      isFaulty_iff.mp hbad, hfirst, rfl, rfl⟩
  · rintro filename rules report rfl hreport
    obtain ⟨root, htree, hof⟩ := analyze_eq_ok hreport
    obtain ⟨-, rfl⟩ := SourceParser.tree_eq_ok_iff.mp htree
    have hsound := SourceParser.sound_of_tree_eq_ok marked htree
    exact ⟨hof, fun n hn => not_isFaulty_iff.mp (hsound n hn)⟩

/-- A tree in which a token is missing below nodes that are fine themselves, and
another one further on. -/
def treeWithFaults : SyntaxNode :=
  let missing (token : String) (row column : Int) : SyntaxNode :=
    { SyntaxNode.leaf token with
      named := false, start := ⟨row, column⟩, isMissing := true, hasError := true }
  let statement (children : List SyntaxNode) : SyntaxNode :=
    { SyntaxNode.leaf "expression_statement" with hasError := true, children := children }
  { SyntaxNode.leaf "program" with
    hasError := true
    children :=
      [SyntaxNode.leaf "comment",
       statement [statement [SyntaxNode.leaf "identifier", missing ";" 2 4]],
       statement [missing ")" 7 0]] }

theorem refused_at_first_fault_treeWithFaults :
    treeWithFaults.FaultsMarked
      ∧ ∃ failure, SourceParser.tree (fun _ _ => treeWithFaults) .tsx "" = .error failure
        ∧ ∃ before bad after, treeWithFaults.preorder = before ++ bad :: after
            ∧ (∀ n ∈ before, n.isError = false ∧ n.isMissing = false)
            ∧ (bad.isError = true ∨ bad.isMissing = true)
            ∧ treeWithFaults.firstFault = some bad
            ∧ failure.line = bad.start.row + 1 ∧ failure.column = bad.start.column + 1 := by
  have marked : treeWithFaults.FaultsMarked := by
    unfold FaultsMarked
    decide
  have h := refused_at_first_fault (fun _ _ => treeWithFaults) .tsx "" marked
  obtain ⟨failure, hfailure⟩ := h.1.mpr (by decide)
  exact ⟨marked, failure, hfailure, h.2.1 failure hfailure⟩

end CodeSmell
