/-
Reports and their schema.

A report is written as an object with the fields of its schema in their order, and
so are a finding and a diagnostic, so each conforms if the values in it do. Most
values are right by their type. What is left to ask for is little: the texts of a
finding are not empty, it names a rule that is built in, and lines are counted from
one.
-/
import CodeSmell.Proofs.Schema.Conformance
import CodeSmell.Report.Schema

set_option autoImplicit false

namespace CodeSmell

open Schema

/-! ## Values of fields -/

/-- An integer that is not below the minimum conforms. -/
theorem Schema.Conforms.int {minimum n : Int} (h : minimum ≤ n) :
    Conforms (.integer minimum) (.int n) :=
  .integer rfl (decide_eq_false (Int.not_lt.mpr h))

/-- A text conforms where texts may be empty. -/
theorem Schema.Conforms.anyText (t : String) : Conforms (.text false) (.str t) :=
  .text fun h => nomatch h

/-- A text that is not empty conforms. -/
theorem Schema.Conforms.someLetters {t : String} (h : t ≠ "") : Conforms (.text true) (.str t) :=
  .text fun _ => h

theorem Report.optionalText_conforms (t : Option String) :
    Conforms .textOrNull (Report.optionalText t) := by
  cases t with
  | none => exact .nullText
  | some t => exact .someText t

theorem Severity.text_listed (s : Severity) : s.text ∈ Severity.all.map (·.text) := by
  cases s <;> decide

theorem Variant.text_listed (v : Variant) :
    v.text ∈ [Variant.typescript.text, Variant.tsx.text] := by
  cases v <;> decide

/-! ## Objects -/

/-- A finding conforms if it names a rule that is built in, its texts are not empty,
and its line is counted from one. -/
theorem Finding.toJson_conforms {f : Finding} (id : f.id ∈ Catalogue.infos.map (·.id))
    (name : f.name ≠ "") (description : f.description ≠ "") (line : 1 ≤ f.line)
    (message : f.message ≠ "") : Finding.schema.Conforms f.toJson := by
  refine Conforms.of_fits (by decide) ?_
  exact .cons ⟨rfl, .oneOf id⟩ <| .cons ⟨rfl, .someLetters name⟩ <|
    .cons ⟨rfl, .someLetters description⟩ <| .cons ⟨rfl, .int line⟩ <|
    .cons ⟨rfl, .someLetters message⟩ <| .cons ⟨rfl, .oneOf f.severity.text_listed⟩ .nil

/-- A diagnostic conforms if its line is counted from one. -/
theorem Diagnostic.toJson_conforms {d : Diagnostic} (line : 1 ≤ d.line) :
    Diagnostic.schema.Conforms d.toJson := by
  refine Conforms.of_fits (by decide) ?_
  exact .cons ⟨rfl, .anyText d.ruleId⟩ <| .cons ⟨rfl, .anyText d.nodeKind⟩ <|
    .cons ⟨rfl, .int line⟩ <| .cons ⟨rfl, .anyText d.error⟩ .nil

/-- A report conforms if its findings and its diagnostics do and it has a line. -/
theorem Report.toJson_conforms {r : Report} (totalLines : 1 ≤ r.totalLines)
    (findings : ∀ f ∈ r.findings, Finding.schema.Conforms f.toJson)
    (diagnostics : ∀ d ∈ r.diagnostics, Diagnostic.schema.Conforms d.toJson) :
    Report.schema.Conforms r.toJson := by
  have hsource : Conforms
      (.record [("filename", .textOrNull),
        ("variant", .oneOf [Variant.typescript.text, Variant.tsx.text]),
        ("total_lines", .integer 1)])
      (.obj [("filename", Report.optionalText r.filename), ("variant", .str r.variant.text),
        ("total_lines", .int r.totalLines)]) := by
    refine Conforms.of_fits (by decide) ?_
    exact .cons ⟨rfl, Report.optionalText_conforms r.filename⟩ <|
      .cons ⟨rfl, .oneOf r.variant.text_listed⟩ <| .cons ⟨rfl, .int totalLines⟩ .nil
  refine Conforms.of_fits (by decide) ?_
  exact .cons ⟨rfl, .exactly schemaVersion⟩ <| .cons ⟨rfl, .anyText r.version⟩ <|
    .cons ⟨rfl, hsource⟩ <| .cons ⟨rfl, .int (Int.natCast_nonneg _)⟩ <|
    .cons ⟨rfl, .list (List.forall_mem_map.mpr findings)⟩ <|
    .cons ⟨rfl, .list (List.forall_mem_map.mpr diagnostics)⟩ .nil

end CodeSmell
