/-
Every report conforms to its schema.

Main statement: where a tree says it holds no fault, the analysis comes to a report,
whatever else the tree is, and the report is what its schema says. A rule that fails
leaves a diagnostic and the walk goes on. A rule that reports makes one of the six
reports of the catalogue, and each of them fills in its description; so there is a
finding for each detection, and it has what findings are asked to have.
-/
import CodeSmell.Proofs.Analysis.Refusal
import CodeSmell.Proofs.Catalogue.Detections
import CodeSmell.Proofs.Report.Conformance
import CodeSmell.Proofs.Walk.Order

set_option autoImplicit false

namespace CodeSmell

open Catalogue

/-! ## Findings -/

/-- If every detection has a finding, and a good one, there is a finding for each of
them, in their order, and all of these are good. -/
theorem Finding.exists_ofDetections {good : Finding → Prop} {ds : List Detection}
    (h : ∀ d ∈ ds, ∃ f, ofDetection d = .ok f ∧ good f) :
    ∃ fs, ofDetections ds = .ok fs ∧ List.Forall₂ (fun d f => ofDetection d = .ok f) ds fs
      ∧ ∀ f ∈ fs, good f := by
  induction ds with
  | nil => exact ⟨[], rfl, .nil, List.forall_mem_nil good⟩
  | cons d rest ih =>
    obtain ⟨f, hf, hgood⟩ := h d List.mem_cons_self
    obtain ⟨fs, hfs, hall, hrest⟩ := ih fun e he => h e (List.mem_cons_of_mem d he)
    refine ⟨f :: fs, ?_, .cons hf hall, List.forall_mem_cons.mpr ⟨hgood, hrest⟩⟩
    rw [ofDetections_cons, hf, hfs]
    rfl

/-- What the built-in rules detect in a tree has its findings. -/
theorem Finding.exists_ofDetections_walk (root : SyntaxNode) (t : Thresholds) :
    ∃ fs, ofDetections (walk root (rules t)).detections.toList = .ok fs := by
  have hall : ∀ d ∈ (walk root (rules t)).detections.toList,
      ∃ f, ofDetection d = .ok f ∧ True := by
    intro d hd
    obtain ⟨v, -, rule, hrule, heval⟩ := mem_detections_walk.mp hd
    obtain ⟨description, hfill, -⟩ := (reports_of_evaluate hrule heval).description_filled
    rw [ofDetection, ofDetectionWith, hfill]
    exact ⟨_, rfl, trivial⟩
  obtain ⟨fs, hfs, -⟩ := exists_ofDetections hall
  exact ⟨fs, hfs⟩

/-- With the built-in rules a source has no report only if its parser refuses it. -/
theorem exists_unparsable_of_analyze_eq_error {parser : SourceParser} {source : String}
    {filename : Option String} {e : AnalysisError}
    (h : analyze parser source filename standard = .error e) :
    ∃ failure, e = .unparsable failure := by
  cases htree : parser.tree (.forFilename filename) source with
  | error failure =>
    rw [analyze, analyzeWith, htree] at h
    cases h
    exact ⟨failure, rfl⟩
  | ok root =>
    obtain ⟨findings, hfindings⟩ := Finding.exists_ofDetections_walk root .standard
    rw [analyze_of_tree standard htree, Report.ofTree_eq, standard, hfindings] at h
    cases h

/-- The findings of detections come in the order of the detections. -/
theorem Finding.ofDetections_append {ds es : List Detection} {fs gs : List Finding}
    (hds : ofDetections ds = .ok fs) (hes : ofDetections es = .ok gs) :
    ofDetections (ds ++ es) = .ok (fs ++ gs) := by
  unfold ofDetections ofDetectionsWith at hds hes ⊢
  rw [List.mapM_append, hds, hes]
  rfl

/-- One of the six reports, at a row of a source, has a finding, and it conforms. -/
theorem Catalogue.Reports.exists_finding {v : Visit} {d : Detection} (h : Reports v d)
    (row : 0 ≤ v.node.start.row) :
    ∃ f, Finding.ofDetection d = .ok f ∧ Finding.schema.Conforms f.toJson := by
  obtain ⟨description, hfill, hne⟩ := h.description_filled
  obtain ⟨hname, hmessage⟩ := texts_ne_empty h.rule_mem
  have hline : 1 ≤ d.row + 1 := by
    rw [h.row_eq]
    omega
  refine ⟨⟨d.rule.id, d.rule.name, description, d.row + 1, d.rule.message, d.rule.severity⟩, ?_, ?_⟩
  · rw [Finding.ofDetection, Finding.ofDetectionWith, hfill]
    rfl
  · exact Finding.toJson_conforms (List.mem_map_of_mem h.rule_mem) hname hne hline hmessage

/-! ## Reports -/

section

variable {root : SyntaxNode} (rows : ∀ n ∈ root.preorder, 0 ≤ n.start.row)

include rows

/-- What the built-in rules detect in a tree has a finding, and it conforms. -/
theorem exists_finding_of_mem_detections {t : Thresholds} {d : Detection}
    (h : d ∈ (walk root (rules t)).detections.toList) :
    ∃ f, Finding.ofDetection d = .ok f ∧ Finding.schema.Conforms f.toJson := by
  obtain ⟨v, hv, rule, hrule, heval⟩ := mem_detections_walk.mp h
  exact (reports_of_evaluate hrule heval).exists_finding (rows v.node (node_mem_preorder hv))

/-- A diagnostic of a walk conforms. -/
theorem conforms_of_mem_diagnostics {rules : List Rule} {d : Diagnostic}
    (h : d ∈ (walk root rules).diagnostics.toList) : Diagnostic.schema.Conforms d.toJson := by
  obtain ⟨v, hv, rule, -, fault, -, rfl⟩ := mem_diagnostics_walk.mp h
  have hrow := rows v.node (node_mem_preorder hv)
  have hline : 1 ≤ v.node.line := by
    rw [SyntaxNode.line]
    omega
  exact Diagnostic.toJson_conforms hline

/-- A tree has a report with the built-in rules, and the report conforms. -/
theorem Report.exists_ofTree (source : String) (filename : Option String) (t : Thresholds) :
    ∃ report, Report.ofTree source filename (rules t) root = .ok report
      ∧ List.Forall₂ (fun d f => Finding.ofDetection d = .ok f)
          (walk root (rules t)).detections.toList report.findings
      ∧ report.diagnostics = (walk root (rules t)).diagnostics.toList
      ∧ Report.schema.Conforms report.toJson := by
  obtain ⟨findings, hfindings, hall, hconforms⟩ :=
    Finding.exists_ofDetections fun _ => exists_finding_of_mem_detections rows (t := t)
  refine ⟨⟨findings, .forFilename filename, filename, Text.lineCount source,
    (walk root (rules t)).diagnostics.toList, toolVersion⟩, ?_, hall, rfl, ?_⟩
  · rw [Report.ofTree_eq, hfindings]
    rfl
  · exact Report.toJson_conforms (Int.ofNat_le.mpr (Text.lineCount_pos source)) hconforms
      fun _ => conforms_of_mem_diagnostics rows

end

/-- A tree that says it holds no fault is not refused, whatever its nodes say. -/
theorem SyntaxNode.refusal?_eq_none {root : SyntaxNode} (sound : root.hasError = false)
    (variant : Variant) : root.refusal? variant = none := by
  rw [refusal?, sound]
  rfl

/-- A source has a report if its tree says that it holds no fault. -/
theorem exists_analyze_eq_ok (parser : SourceParser) (source : String) (filename : Option String)
    (sound : (parser (.forFilename filename) source).hasError = false)
    (rows : ∀ n ∈ (parser (.forFilename filename) source).preorder, 0 ≤ n.start.row)
    (t : Thresholds) : ∃ report, analyze parser source filename (rules t) = .ok report := by
  have htree := SourceParser.tree_eq_ok_iff.mpr
    ⟨SyntaxNode.refusal?_eq_none sound (.forFilename filename), rfl⟩
  obtain ⟨report, hreport, -⟩ := Report.exists_ofTree rows source filename t
  exact ⟨report, analyze_of_report htree hreport⟩

/-- **Every report conforms.** Where the tree of a source says that it holds no fault,
and its rows are counted from zero, the source has a report with the built-in rules:
no kind of node, no nesting and no bytes keep it from having one. The findings are
those of the detections of the walk, one for each, the diagnostics are those of the
walk, and the check against the schema passes. -/
theorem report_conforms (parser : SourceParser) (source : String) (filename : Option String)
    (sound : (parser (.forFilename filename) source).hasError = false)
    (rows : ∀ n ∈ (parser (.forFilename filename) source).preorder, 0 ≤ n.start.row) :
    ∃ report, analyze parser source filename standard = .ok report
      ∧ List.Forall₂ (fun d f => Finding.ofDetection d = .ok f)
          (walk (parser (.forFilename filename) source) standard).detections.toList report.findings
      ∧ report.diagnostics
          = (walk (parser (.forFilename filename) source) standard).diagnostics.toList
      ∧ Report.validate report.toJson = .ok () ∧ Report.schema.Conforms report.toJson := by
  obtain ⟨report, hreport, hfindings, hdiagnostics, hconforms⟩ :=
    Report.exists_ofTree rows source filename .standard
  refine ⟨report, ?_, hfindings, hdiagnostics, ?_, hconforms⟩
  · have htree := SourceParser.tree_eq_ok_iff.mpr
      ⟨SyntaxNode.refusal?_eq_none sound (.forFilename filename), rfl⟩
    rw [analyze_of_tree standard htree]
    exact congrArg (Except.mapError AnalysisError.description) hreport
  · exact (Schema.check_eq_ok_iff _ _).mpr hconforms

/-- A tree with texts that no parser would give its nodes: a number that is cut off, a
number with a byte that belongs to no character, and inside that the type `any`. -/
def treeWithOddTexts : SyntaxNode :=
  let node (kind : String) (row : Int) (bytes : List UInt8) (children : List SyntaxNode) :
      SyntaxNode :=
    { SyntaxNode.leaf kind with
      start := ⟨row, 0⟩, text := some (.ofBytes ⟨bytes.toArray⟩), children := children }
  node "program" 0 []
    [node "number" 0 [0x30, 0x78] [],
     node "number" 1 [0x37, 0xC3] [node "predefined_type" 2 [0x61, 0x6E, 0x79] []]]

theorem report_conforms_treeWithOddTexts :
    treeWithOddTexts.hasError = false
      ∧ (∀ n ∈ treeWithOddTexts.preorder, 0 ≤ n.start.row)
      ∧ ∃ report, analyze (fun _ _ => treeWithOddTexts) "0x\n7\nany" (some "") standard = .ok report
        ∧ List.Forall₂ (fun d f => Finding.ofDetection d = .ok f)
            (walk treeWithOddTexts standard).detections.toList report.findings
        ∧ report.diagnostics = (walk treeWithOddTexts standard).diagnostics.toList
        ∧ Report.validate report.toJson = .ok () ∧ Report.schema.Conforms report.toJson := by
  have rows : ∀ n ∈ treeWithOddTexts.preorder, 0 ≤ n.start.row := by decide
  exact ⟨rfl, rows, report_conforms (fun _ _ => treeWithOddTexts) "0x\n7\nany" (some "") rfl rows⟩

end CodeSmell
