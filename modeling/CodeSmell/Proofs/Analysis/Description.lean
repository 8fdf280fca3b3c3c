/-
Analyses that end at a description.

Two kinds of failure meet in an analysis. A rule that fails at a node leaves a diagnostic,
and the walk goes on; a description that cannot be filled in ends the analysis, though
only after the walk, when the detections become findings. Main statement: which of them
ends it is settled by the detections of the walk alone. The first one whose description
cannot be filled in gives the error, whatever diagnostics there are; without such a one
there is a finding for each detection, in their order, and the diagnostics are those of
the walk.

Nothing in this depends on how descriptions are filled in, so `fill` is any way to do it,
with errors of any kind; `analyze` is the case of `Template.fill`.
-/
import CodeSmell.Proofs.Analysis.Conformance
import CodeSmell.Proofs.Report.Description

set_option autoImplicit false

namespace CodeSmell

section

variable {ε : Type} {fill : Template.Filler ε} {ds : List Detection}

namespace Finding

/-- There are findings exactly if each of them is that of its detection. -/
theorem ofDetectionsWith_eq_ok_iff {fs : List Finding} :
    ofDetectionsWith fill ds = .ok fs ↔ List.Forall₂ (Tells fill) ds fs := by
  rw [ofDetectionsWith, mapM_eq_ok_iff]
  simp only [ofDetectionWith_eq_ok_iff]

/-- There are no findings exactly if some description cannot be filled in, and the error is
about the first such description. -/
theorem ofDetectionsWith_eq_error_iff {e : ε} :
    ofDetectionsWith fill ds = .error e ↔ ∃ before d after, ds = before ++ d :: after
      ∧ (∀ b ∈ before, ∃ text, fill b.rule.description b.facts = .ok text)
      ∧ fill d.rule.description d.facts = .error e := by
  have hfinding (d : Detection) : (∃ f, ofDetectionWith fill d = .ok f)
      ↔ ∃ text, fill d.rule.description d.facts = .ok text := by
    simp only [ofDetectionWith_eq_ok_iff]
    constructor
    · rintro ⟨f, h⟩
      exact ⟨f.description, h.description⟩
    · rintro ⟨text, h⟩
      exact ⟨⟨_, _, text, _, _, _⟩, h, rfl, rfl, rfl, rfl, rfl⟩
  rw [ofDetectionsWith, mapM_eq_error_iff]
  simp only [hfinding, ofDetectionWith_eq_error_iff]

theorem exists_ofDetectionsWith_eq_error_iff :
    (∃ e, ofDetectionsWith fill ds = .error e)
      ↔ ∃ d ∈ ds, ∃ e, fill d.rule.description d.facts = .error e := by
  rw [ofDetectionsWith, exists_mapM_eq_error_iff]
  simp only [ofDetectionWith_eq_error_iff]

end Finding

/-! ## Reports -/

variable {source : String} {filename : Option String} {rules : List Rule} {root : SyntaxNode}

/-- A tree has a report exactly if there are findings of what is detected in it, and the
report holds them. -/
theorem Report.ofTreeWith_eq_ok_iff {report : Report} :
    Report.ofTreeWith fill source filename rules root = .ok report
      ↔ List.Forall₂ (Finding.Tells fill) (walk root rules).detections.toList report.findings
        ∧ report.diagnostics = (walk root rules).diagnostics.toList
        ∧ report.variant = .forFilename filename ∧ report.filename = filename
        ∧ report.totalLines = Text.lineCount source ∧ report.version = toolVersion := by
  rw [← Finding.ofDetectionsWith_eq_ok_iff]
  dsimp only [Report.ofTreeWith]
  cases Finding.ofDetectionsWith fill (walk root rules).detections.toList with
  | error e => simp [bind, Except.bind]
  | ok findings =>
    constructor
    · intro h
      cases h
      exact ⟨rfl, rfl, rfl, rfl, rfl, rfl⟩
    · intro h
      obtain ⟨fs, variant, name, totalLines, diagnostics, version⟩ := report
      dsimp only at h
      obtain ⟨hfs, rfl, rfl, rfl, rfl, rfl⟩ := h
      cases hfs
      rfl

/-- A tree has no report exactly if there are no findings of what is detected in it. -/
theorem Report.ofTreeWith_eq_error_iff {e : ε} :
    Report.ofTreeWith fill source filename rules root = .error e
      ↔ Finding.ofDetectionsWith fill (walk root rules).detections.toList = .error e := by
  dsimp only [Report.ofTreeWith]
  cases Finding.ofDetectionsWith fill (walk root rules).detections.toList with
  | error e' => simp [bind, Except.bind]
  | ok findings => simp [bind, Except.bind, pure, Except.pure]

/-! ## Analyses -/

theorem mapError_eq_error_iff {α ε' : Type} {g : ε → ε'} {x : Except ε α} {e : ε'} :
    x.mapError g = .error e ↔ ∃ error, x = .error error ∧ e = g error := by
  cases x with
  | error error => simp [Except.mapError, eq_comm]
  | ok a => simp [Except.mapError]

theorem mapError_eq_ok_iff {α ε' : Type} {g : ε → ε'} {x : Except ε α} {a : α} :
    x.mapError g = .ok a ↔ x = .ok a := by
  cases x with
  | error error => simp [Except.mapError]
  | ok b => simp [Except.mapError]

/-- What comes of a source whose tree says that it holds no fault is what comes of the tree. -/
theorem analyzeWith_of_sound {parser : SourceParser}
    (sound : (parser (.forFilename filename) source).hasError = false) :
    analyzeWith fill parser source filename rules
      = (Report.ofTreeWith fill source filename rules (parser (.forFilename filename) source)).mapError
          .description := by
  have htree := SourceParser.tree_eq_ok_iff.mpr
    ⟨SyntaxNode.refusal?_eq_none sound (.forFilename filename), rfl⟩
  rw [analyzeWith, htree]
  rfl

end

/-- What a walk detects comes visit by visit, and at a visit in the order of the rules. -/
theorem detections_walk_in_order (root : SyntaxNode) (rules : List Rule) :
    (walk root rules).detections.toList = (visits [] root).flatMap fun v =>
      rules.filterMap fun rule => (rule.outcome v).detection? := by
  rw [detections_walk_eq]
  simp only [List.filterMap_map]
  rfl

/-- **An analysis ends at the first description that fails.** Where the tree of a source
says that it holds no fault, let the rules be any rules, and `fill` any way to fill in
descriptions. What the walk detects comes node by node, in the order of the walk, and at a
node in the order of the rules.

The analysis fails exactly if the description of some detection cannot be filled in, and
then with the error of the first such detection. Otherwise there is a report: its findings
are those of the detections, one for each and in their order, and its diagnostics are those
of the walk. -/
theorem analysis_ends_at_first_description {ε : Type} (fill : Template.Filler ε)
    (parser : SourceParser) (source : String) (filename : Option String) (rules : List Rule)
    (sound : (parser (.forFilename filename) source).hasError = false) :
    let root := parser (.forFilename filename) source
    let detections := (walk root rules).detections.toList
    detections = ((visits [] root).flatMap fun v =>
        rules.filterMap fun rule => (rule.outcome v).detection?)
      ∧ ((∃ e, analyzeWith fill parser source filename rules = .error e)
          ↔ ∃ d ∈ detections, ∃ e, fill d.rule.description d.facts = .error e)
      ∧ (∀ e, analyzeWith fill parser source filename rules = .error e
          ↔ ∃ before d after error, detections = before ++ d :: after
            ∧ (∀ b ∈ before, ∃ text, fill b.rule.description b.facts = .ok text)
            ∧ fill d.rule.description d.facts = .error error ∧ e = .description error)
      ∧ ((∀ d ∈ detections, ∃ text, fill d.rule.description d.facts = .ok text) →
          ∃ report, analyzeWith fill parser source filename rules = .ok report
            ∧ List.Forall₂ (Finding.Tells fill) detections report.findings
            ∧ report.diagnostics = (walk root rules).diagnostics.toList
            ∧ report.variant = .forFilename filename ∧ report.filename = filename
            ∧ report.totalLines = Text.lineCount source ∧ report.version = toolVersion) := by
  intro root detections
  have herror (e : AnalysisError ε) : analyzeWith fill parser source filename rules = .error e
      ↔ ∃ before d after error, detections = before ++ d :: after
        ∧ (∀ b ∈ before, ∃ text, fill b.rule.description b.facts = .ok text)
        ∧ fill d.rule.description d.facts = .error error ∧ e = .description error := by
    rw [analyzeWith_of_sound sound, mapError_eq_error_iff]
    simp only [Report.ofTreeWith_eq_error_iff, Finding.ofDetectionsWith_eq_error_iff]
    constructor
    · rintro ⟨error, ⟨before, d, after, hsplit, hbefore, hd⟩, rfl⟩
      exact ⟨before, d, after, error, hsplit, hbefore, hd, rfl⟩
    · rintro ⟨before, d, after, error, hsplit, hbefore, hd, rfl⟩
      exact ⟨error, ⟨before, d, after, hsplit, hbefore, hd⟩, rfl⟩
  have hexists : (∃ e, analyzeWith fill parser source filename rules = .error e)
      ↔ ∃ d ∈ detections, ∃ e, fill d.rule.description d.facts = .error e := by
    rw [← Finding.exists_ofDetectionsWith_eq_error_iff]
    simp only [analyzeWith_of_sound sound, mapError_eq_error_iff, Report.ofTreeWith_eq_error_iff]
    constructor
    · rintro ⟨-, error, h, -⟩
      exact ⟨error, h⟩
    · rintro ⟨error, h⟩
      exact ⟨_, error, h, rfl⟩
  refine ⟨detections_walk_in_order root rules, hexists, herror, fun hall => ?_⟩
  cases h : analyzeWith fill parser source filename rules with
  | error e =>
    obtain ⟨d, hd, error, hfail⟩ := hexists.mp ⟨e, h⟩
    obtain ⟨text, htext⟩ := hall d hd
    rw [htext] at hfail
    cases hfail
  | ok report =>
    rw [analyzeWith_of_sound sound, mapError_eq_ok_iff] at h
    exact ⟨report, rfl, Report.ofTreeWith_eq_ok_iff.mp h⟩

/-- A rule that reports every node, with its kind as the only fact. -/
def kindRule (description : String) : Rule :=
  let info : RuleInfo := ⟨"kind", "Kind", .low, description, ""⟩
  { info with
    evaluate := fun v => .ok (some ⟨info, v.node.start.row, [("kind", .str v.node.kind)]⟩) }

/-- A rule that fails on every node, and two that report it, the second one with a
description that there is no fact for. -/
def kindRules : List Rule :=
  [{ kindRule "" with evaluate := fun _ => .error (.divisionByZero "division by zero") },
   kindRule "\x7bkind\x7d", kindRule "\x7bname\x7d"]

theorem analysis_ends_at_first_description_kindRules :
    (SyntaxNode.leaf "program").hasError = false
      ∧ (walk (SyntaxNode.leaf "program") kindRules).diagnostics.toList ≠ []
      ∧ analyzeWith Template.fill (fun _ _ => SyntaxNode.leaf "program") "" none kindRules
          = .error (.description (.missingFact "name")) := by
  have h := analysis_ends_at_first_description Template.fill
    (fun _ _ => SyntaxNode.leaf "program") "" none kindRules rfl
  have hdetections : (walk (SyntaxNode.leaf "program") kindRules).detections.toList
      = [⟨(kindRule "\x7bkind\x7d").toRuleInfo, 0, [("kind", .str "program")]⟩,
        ⟨(kindRule "\x7bname\x7d").toRuleInfo, 0, [("kind", .str "program")]⟩] := h.1
  refine ⟨rfl, ?_, (h.2.2.1 _).mpr ⟨[_], _, [], .missingFact "name", hdetections, ?_, ?_, rfl⟩⟩
  · rw [diagnostics_walk_eq]
    exact List.cons_ne_nil _ _
  · exact List.forall_mem_singleton.mpr ⟨"program", by decide⟩
  · decide

end CodeSmell
