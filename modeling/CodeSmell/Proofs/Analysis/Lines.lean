/-
The lines of a report.

Main statement: in a tree whose places are laid out, the findings of a report come in
the order of their lines, and so do its diagnostics, and each line is one of the
source. Nothing sorts them. A rule reports at the row where the visited node starts,
and a failed rule is noted at that row, so the lines of both are rows of visits, and
these are in order because the walk follows the tree.
-/
import CodeSmell.Proofs.Analysis.Conformance
import CodeSmell.Proofs.Tree.Layout

set_option autoImplicit false

namespace CodeSmell

open Catalogue

/-! ## Lines of findings -/

theorem Finding.line_of_ofDetection {d : Detection} {f : Finding} (h : ofDetection d = .ok f) :
    f.line = d.row + 1 := by
  unfold ofDetection ofDetectionWith at h
  cases hfill : Template.fill d.rule.description d.facts with
  | error e =>
    rw [hfill] at h
    cases h
  | ok text =>
    rw [hfill] at h
    cases h
    rfl

/-- The lines of findings are the rows of their detections, counted from one. -/
theorem Finding.lines_eq {ds : List Detection} {fs : List Finding}
    (h : List.Forall₂ (fun d f => ofDetection d = .ok f) ds fs) :
    fs.map (·.line) = ds.map (·.row + 1) := by
  induction h with
  | nil => rfl
  | cons hf _ ih => rw [List.map_cons, List.map_cons, ih, Finding.line_of_ofDetection hf]

/-! ## Rows of a walk -/

/-- What the built-in rules detect at a visit is at the row of the visited node. -/
theorem row_of_mem_detections {t : Thresholds} {v : Visit} {d : Detection}
    (h : d ∈ ((rules t).map (·.outcome v)).filterMap RuleOutcome.detection?) :
    d.row = v.node.start.row := by
  obtain ⟨o, ho, hd⟩ := List.mem_filterMap.mp h
  obtain ⟨rule, hrule, rfl⟩ := List.mem_map.mp ho
  exact (reports_of_evaluate hrule (Rule.detection?_outcome_eq_some.mp hd)).row_eq

/-- A rule that fails at a visit is noted at the line of the visited node. -/
theorem line_of_mem_diagnostics {rules : List Rule} {v : Visit} {d : Diagnostic}
    (h : d ∈ (rules.map (·.outcome v)).filterMap RuleOutcome.diagnostic?) :
    d.line = v.node.start.row + 1 := by
  obtain ⟨o, ho, hd⟩ := List.mem_filterMap.mp h
  obtain ⟨rule, -, rfl⟩ := List.mem_map.mp ho
  obtain ⟨fault, -, rfl⟩ := Rule.diagnostic?_outcome_eq_some.mp hd
  rfl

section

variable {α : Type} {key : α → Int} {vs : List Visit} {f : Visit → List α}
  (hkey : ∀ v, ∀ x ∈ f v, key x = v.node.start.row + 1)

include hkey

/-- What is collected at visits lies in the lines of the visited nodes. -/
theorem exists_visit_of_mem_collected {line : Int} (h : line ∈ (vs.flatMap f).map key) :
    ∃ v ∈ vs, line = v.node.start.row + 1 := by
  obtain ⟨x, hx, rfl⟩ := List.mem_map.mp h
  obtain ⟨v, hv, hx⟩ := List.mem_flatMap.mp hx
  exact ⟨v, hv, hkey v x hx⟩

/-- What is collected at visits has the order that the visits have. -/
theorem pairwise_collected
    (h : vs.Pairwise fun v w => v.node.start.row ≤ w.node.start.row) :
    ((vs.flatMap f).map key).Pairwise (· ≤ ·) := by
  refine List.pairwise_map.mpr (List.pairwise_flatMap.mpr ⟨?_, ?_⟩)
  · intro v _
    refine List.pairwise_of_forall_mem_list fun x hx y hy => ?_
    exact Int.le_of_eq ((hkey v x hx).trans (hkey v y hy).symm)
  · refine h.imp fun {v w} hvw x hx y hy => ?_
    rw [hkey v x hx, hkey w y hy]
    omega

end

/-! ## Lines of reports -/

section

variable {root : SyntaxNode} {t : Thresholds} {report : Report}
  (findings : List.Forall₂ (fun d f => Finding.ofDetection d = .ok f)
    (walk root (rules t)).detections.toList report.findings)
  (diagnostics : report.diagnostics = (walk root (rules t)).diagnostics.toList)

include findings in
theorem Report.findingLines_eq : report.findings.map (·.line)
    = ((visits [] root).flatMap fun v =>
        ((rules t).map (·.outcome v)).filterMap RuleOutcome.detection?).map (·.row + 1) := by
  rw [Finding.lines_eq findings, detections_walk_eq]

include diagnostics in
theorem Report.diagnosticLines_eq : report.diagnostics.map (·.line)
    = ((visits [] root).flatMap fun v =>
        ((rules t).map (·.outcome v)).filterMap RuleOutcome.diagnostic?).map (·.line) := by
  rw [diagnostics, diagnostics_walk_eq]

include findings in
/-- A finding is in the line where some visited node starts. -/
theorem Report.exists_visit_of_mem_findings {f : Finding} (hf : f ∈ report.findings) :
    ∃ v ∈ visits [] root, f.line = v.node.start.row + 1 := by
  have hline : f.line ∈ report.findings.map (·.line) := List.mem_map_of_mem hf
  rw [findingLines_eq findings] at hline
  exact exists_visit_of_mem_collected
    (fun v d hd => congrArg (· + 1) (row_of_mem_detections hd)) hline

include diagnostics in
/-- A diagnostic is in the line where some visited node starts. -/
theorem Report.exists_visit_of_mem_diagnostics {d : Diagnostic} (hd : d ∈ report.diagnostics) :
    ∃ v ∈ visits [] root, d.line = v.node.start.row + 1 := by
  have hline : d.line ∈ report.diagnostics.map (·.line) := List.mem_map_of_mem hd
  rw [diagnosticLines_eq diagnostics] at hline
  exact exists_visit_of_mem_collected (fun v d hd => line_of_mem_diagnostics hd) hline

end

theorem Report.totalLines_ofTree {source : String} {filename : Option String}
    {rules : List Rule} {root : SyntaxNode} {report : Report}
    (h : Report.ofTree source filename rules root = .ok report) :
    report.totalLines = Text.lineCount source := by
  rw [ofTree_eq] at h
  cases hfindings : Finding.ofDetections (walk root rules).detections.toList with
  | error e =>
    simp only [hfindings] at h
    cases h
  | ok findings =>
    simp only [hfindings] at h
    cases h
    rfl

/-- **Lines come in order.** Where the tree of a source says that it holds no fault and
its places are laid out in the source, the source has a report, under any limits. Its
findings are in the order of their lines and its diagnostics are too, and every line is
one of the lines of the source, which are counted from one. -/
theorem lines_in_order (parser : SourceParser) (source : String) (filename : Option String)
    (t : Thresholds) (sound : (parser (.forFilename filename) source).hasError = false)
    (layout : (parser (.forFilename filename) source).LaidOut (source.toList.count '\n')) :
    ∃ report, analyze parser source filename (rules t) = .ok report
      ∧ (report.findings.map (·.line)).Pairwise (· ≤ ·)
      ∧ (report.diagnostics.map (·.line)).Pairwise (· ≤ ·)
      ∧ (∀ f ∈ report.findings, 1 ≤ f.line ∧ f.line ≤ Text.lineCount source)
      ∧ (∀ d ∈ report.diagnostics, 1 ≤ d.line ∧ d.line ≤ Text.lineCount source)
      ∧ report.totalLines = Text.lineCount source := by
  have rows : ∀ n ∈ (parser (.forFilename filename) source).preorder, 0 ≤ n.start.row :=
    fun n hn => (layout.rows n hn).1
  obtain ⟨report, hreport, findings, diagnostics, -⟩ :=
    Report.exists_ofTree rows source filename t
  have hpairwise := layout.pairwise_visits []
  have hline {v : Visit} (hv : v ∈ visits [] (parser (.forFilename filename) source)) :
      1 ≤ v.node.start.row + 1 ∧ v.node.start.row + 1 ≤ Text.lineCount source := by
    have hmem := node_mem_preorder hv
    obtain ⟨hlow, hhigh⟩ := layout.rows v.node hmem
    have hforward := Point.row_le (layout.forward v.node hmem)
    rw [Text.lineCount]
    omega
  refine ⟨report, ?_, ?_, ?_, ?_, ?_, Report.totalLines_ofTree hreport⟩
  · have htree := SourceParser.tree_eq_ok_iff.mpr
      ⟨SyntaxNode.refusal?_eq_none sound (.forFilename filename), rfl⟩
    exact analyze_of_report htree hreport
  · rw [Report.findingLines_eq findings]
    exact pairwise_collected (fun v d hd => congrArg (· + 1) (row_of_mem_detections hd)) hpairwise
  · rw [Report.diagnosticLines_eq diagnostics]
    exact pairwise_collected (fun v d hd => line_of_mem_diagnostics hd) hpairwise
  · intro f hf
    obtain ⟨v, hv, heq⟩ := Report.exists_visit_of_mem_findings findings hf
    exact heq ▸ hline hv
  · intro d hd
    obtain ⟨v, hv, heq⟩ := Report.exists_visit_of_mem_diagnostics diagnostics hd
    exact heq ▸ hline hv

/-- The tree of three lines: a number, and on the other two an assertion around a number
that is cut off. -/
def laidOutTree : SyntaxNode :=
  let node (kind : String) (start stop : Point) (bytes : List UInt8)
      (children : List SyntaxNode) : SyntaxNode :=
    { SyntaxNode.leaf kind with
      start := start, stop := stop, text := some (.ofBytes ⟨bytes.toArray⟩), children := children }
  node "program" ⟨0, 0⟩ ⟨2, 3⟩ []
    [node "number" ⟨0, 0⟩ ⟨0, 1⟩ [0x37] [],
     node "non_null_expression" ⟨1, 0⟩ ⟨2, 3⟩ [] [node "number" ⟨2, 0⟩ ⟨2, 2⟩ [0x30, 0x78] []]]

theorem lines_in_order_laidOutTree :
    laidOutTree.hasError = false ∧ laidOutTree.LaidOut ("7\n\n0x!".toList.count '\n')
      ∧ ∃ report, analyze (fun _ _ => laidOutTree) "7\n\n0x!" none (rules .standard) = .ok report
        ∧ (report.findings.map (·.line)).Pairwise (· ≤ ·)
        ∧ (report.diagnostics.map (·.line)).Pairwise (· ≤ ·)
        ∧ (∀ f ∈ report.findings, 1 ≤ f.line ∧ f.line ≤ Text.lineCount "7\n\n0x!")
        ∧ (∀ d ∈ report.diagnostics, 1 ≤ d.line ∧ d.line ≤ Text.lineCount "7\n\n0x!")
        ∧ report.totalLines = Text.lineCount "7\n\n0x!" := by
  have layout : laidOutTree.LaidOut ("7\n\n0x!".toList.count '\n') :=
    ⟨by decide, by decide, by decide, by decide⟩
  exact ⟨rfl, layout, lines_in_order (fun _ _ => laidOutTree) "7\n\n0x!" none .standard rfl layout⟩

end CodeSmell
