/-
Written values and reports are read back.

Main statement: the canonical text of a value without fractions is read as the value,
up to the order of fields, with any indentation or none; so is an exported report, and
checking the file that it was written to comes to what checking the report does, down
to the violation that is named. The one condition on a report is on its integers,
which must not have more digits than are converted.

That the verdict is the same one needs more than equal values. A check that fails
names a value, and a value with fields is named with them in their order; but what a
report can get wrong is in its scalars, the number of lines, a line, a rule or an
empty text.
-/
import CodeSmell.Proofs.Json.RoundTrip
import CodeSmell.Proofs.Schema.Order
import CodeSmell.Report.Export
import CodeSmell.Report.Schema

set_option autoImplicit false

namespace CodeSmell

open Json

namespace Report

/-! ## Reports as values -/

/-- The integers of a report. -/
def integers (r : Report) : List Int :=
  r.totalLines :: r.count :: (r.findings.map (·.line) ++ r.diagnostics.map (·.line))

/-- The integers of a report are not longer than what is converted. -/
def IsConvertible (r : Report) : Prop :=
  ∀ n ∈ r.integers, (naturalDigits n.natAbs).length ≤ Reading.digitLimit

theorem isPlain_optionalText (t : Option String) : (optionalText t).IsPlain := by
  cases t with
  | none => exact .null
  | some t => exact .str t

end Report

/-! The keys of the objects that a report is made of. -/

theorem Finding.nodup_keys :
    ["id", "name", "description", "line", "message", "severity"].Nodup := by
  decide

theorem Diagnostic.nodup_keys : ["rule_id", "node_type", "line", "error"].Nodup := by
  decide

theorem Report.nodup_keys :
    ["schema_version", "tool_version", "source", "count", "findings", "diagnostics"].Nodup := by
  decide

theorem Report.nodup_sourceKeys : ["filename", "variant", "total_lines"].Nodup := by
  decide

theorem Finding.isPlain_toJson {f : Finding}
    (h : (naturalDigits f.line.natAbs).length ≤ Reading.digitLimit) : f.toJson.IsPlain := by
  refine .obj Finding.nodup_keys ?_
  simp only [List.forall_mem_cons]
  exact ⟨.str _, .str _, .str _, .int h, .str _, .str _, List.forall_mem_nil _⟩

theorem Diagnostic.isPlain_toJson {d : Diagnostic}
    (h : (naturalDigits d.line.natAbs).length ≤ Reading.digitLimit) : d.toJson.IsPlain := by
  refine .obj Diagnostic.nodup_keys ?_
  simp only [List.forall_mem_cons]
  exact ⟨.str _, .str _, .int h, .str _, List.forall_mem_nil _⟩

namespace Report

theorem isPlain_toJson {r : Report} (h : r.IsConvertible) : r.toJson.IsPlain := by
  rw [IsConvertible, integers, List.forall_mem_cons, List.forall_mem_cons,
    List.forall_mem_append, List.forall_mem_map, List.forall_mem_map] at h
  obtain ⟨hlines, hcount, hfindings, hdiagnostics⟩ := h
  refine .obj nodup_keys ?_
  simp only [List.forall_mem_cons]
  refine ⟨.str _, .str _, ?_, .int hcount, .arr ?_, .arr ?_, List.forall_mem_nil _⟩
  · refine .obj nodup_sourceKeys ?_
    simp only [List.forall_mem_cons]
    exact ⟨isPlain_optionalText r.filename, .str _, .int hlines, List.forall_mem_nil _⟩
  · exact List.forall_mem_map.mpr fun f hf => Finding.isPlain_toJson (hfindings f hf)
  · exact List.forall_mem_map.mpr fun d hd => Diagnostic.isPlain_toJson (hdiagnostics d hd)

/-! ## The verdict on a report -/

open Schema

theorem sorted_optionalText (t : Option String) : (optionalText t).sorted = optionalText t := by
  cases t with
  | none => rfl
  | some t => rfl

/-- A report is checked as its sorted form is. -/
theorem unordered_toJson (r : Report) : schema.Unordered r.toJson := by
  apply Unordered.record
  · exact nodup_keys
  simp only [List.forall_mem_cons]
  refine ⟨?_, ?_, ?_, ?_, ?_, ?_, List.forall_mem_nil _⟩
  · rintro _ ⟨⟩
    exact .scalar rfl
  · rintro _ ⟨⟩
    exact .scalar rfl
  · rintro _ ⟨⟩
    apply Unordered.record_of_scalars
    · exact nodup_sourceKeys
    · simp only [List.forall_mem_cons]
      exact ⟨sorted_optionalText r.filename, rfl, rfl, List.forall_mem_nil _⟩
  · rintro _ ⟨⟩
    exact .scalar rfl
  · rintro _ ⟨⟩
    apply Unordered.list
    refine List.forall_mem_map.mpr fun f _ => ?_
    apply Unordered.record_of_scalars
    · exact Finding.nodup_keys
    · simp only [List.forall_mem_cons]
      exact ⟨rfl, rfl, rfl, rfl, rfl, rfl, List.forall_mem_nil _⟩
  · rintro _ ⟨⟩
    apply Unordered.list
    refine List.forall_mem_map.mpr fun d _ => ?_
    apply Unordered.record_of_scalars
    · exact Diagnostic.nodup_keys
    · simp only [List.forall_mem_cons]
      exact ⟨rfl, rfl, rfl, rfl, List.forall_mem_nil _⟩

/-! ## Reading back -/

/-- An exported report is read as the report with its fields in order, and the reading
passes for a report, or fails to, as the report itself does. -/
theorem parse_exportJson {r : Report} (h : r.IsConvertible) (indent : Option Nat) :
    Json.parse (r.exportJson indent).toList = .ok r.toJson.sorted
      ∧ validate r.toJson.sorted = validate r.toJson := by
  have hviolations : schema.violations r.toJson.sorted = schema.violations r.toJson :=
    unordered_toJson r
  refine ⟨(isPlain_toJson h).parse_render indent, ?_⟩
  rw [validate, validate, check, check, hviolations]

theorem named_schemaName : Schema.named schemaName = .ok schema := by
  rw [Schema.named, if_pos rfl]

/-- Checking the text of an exported report is checking the report. -/
theorem checkText_exportJson {r : Report} (h : r.IsConvertible) (indent : Option Nat) :
    Schema.checkText schemaName (r.exportJson indent)
      = (validate r.toJson).mapError .violation := by
  obtain ⟨hparse, hverdict⟩ := parse_exportJson h indent
  rw [Schema.checkText, hparse, named_schemaName, ← hverdict]
  rfl

/-- Checking a file that holds an exported report is checking the report. -/
theorem checkReport_exportJson {r : Report} (h : r.IsConvertible) (indent : Option Nat)
    {store : FileStore} {path : Path}
    (file : store.read path = .ok (r.exportJson indent).toUTF8) :
    (FileStore.disk.checkReport path schemaName).run store
      = ((validate r.toJson).mapError .violation, store) := by
  have htext : Encoding.text "utf-8" (r.exportJson indent).toUTF8.toList
      = .ok (r.exportJson indent) := (isPlain_toJson h).text_encode_render indent
  rw [← checkText_exportJson h indent]
  have hread : FileStore.disk.read path store = (.ok (r.exportJson indent).toUTF8, store) :=
    congrArg (·, store) file
  simp only [Disk.checkReport, StateT.run, bind, StateT.bind, hread, htext]
  rfl

end Report

/-- **Written JSON is read back.** A value without fractions, whatever its strings and
keys hold and however it nests, is read from its canonical text as itself up to the
order of fields. In particular an exported report is, and both the reading and the
file that the text was written to pass for a report, or fail to with the violation, as
the report itself does. -/
theorem written_json_reads_back (indent : Option Nat) :
    (∀ j : Json, j.IsPlain →
      ∃ read, Json.parse ((Datum.ofJson j).canonical indent).toList = .ok read ∧ j.Same read)
      ∧ ∀ r : Report, r.IsConvertible →
        (∃ read, Json.parse (r.exportJson indent).toList = .ok read ∧ r.toJson.Same read
          ∧ Report.validate read = Report.validate r.toJson)
        ∧ ∀ (store : FileStore) (path : Path),
          store.read path = .ok (r.exportJson indent).toUTF8 →
            (FileStore.disk.checkReport path Report.schemaName).run store
              = ((Report.validate r.toJson).mapError .violation, store) := by
  constructor
  · intro j h
    rw [Datum.canonical, Datum.toJson_ofJson h]
    exact ⟨j.sorted, h.parse_render indent, h.same_sorted⟩
  · intro r h
    obtain ⟨hparse, hverdict⟩ := Report.parse_exportJson h indent
    refine ⟨⟨r.toJson.sorted, hparse, (Report.isPlain_toJson h).same_sorted, hverdict⟩, ?_⟩
    intro store path file
    exact Report.checkReport_exportJson h indent file

/-- Keys out of order, empty and not, and every kind of character that is escaped or
could be taken for one that is. -/
def oddJson : Json := .obj
  [("z", .arr [.null, .bool true, .int (-120), .arr [], .obj []]),
   ("a\"\\\n\x01", .str "\\u0041\r\x00\x1f\x7f\u2028\ufeff😀"),
   ("", .obj [("b", .int 0), ("B", .bool false)])]

/-- A report that does not pass for one: a line and a rule are wrong. -/
def oddReport : Report :=
  { findings := [⟨"no-rule", "", "\u2029", 0, "\"", .high⟩]
    variant := .tsx
    filename := some "C:\\new\r\n😀.tsx"
    totalLines := -7
    diagnostics := [⟨"\t", "", 3, "\x00"⟩]
    version := "" }

theorem written_json_reads_back_odd :
    oddJson.IsPlain ∧ oddReport.IsConvertible
      ∧ (∃ read, Json.parse ((Datum.ofJson oddJson).canonical (some 2)).toList = .ok read
        ∧ oddJson.Same read)
      ∧ (FileStore.disk.checkReport ⟨"", ["r.json"]⟩ Report.schemaName).run
          [(["r.json"], .file (oddReport.exportJson none).toUTF8)]
        = ((Report.validate oddReport.toJson).mapError .violation,
          [(["r.json"], .file (oddReport.exportJson none).toUTF8)]) := by
  have hplain : oddJson.IsPlain := by
    refine .obj (by decide) ?_
    simp only [List.forall_mem_cons]
    refine ⟨.arr ?_, .str _, .obj (by decide) ?_, List.forall_mem_nil _⟩
    · simp only [List.forall_mem_cons]
      exact ⟨.null, .bool true, .int (by decide), .arr (List.forall_mem_nil _),
        .obj (by decide) (List.forall_mem_nil _), List.forall_mem_nil _⟩
    · simp only [List.forall_mem_cons]
      exact ⟨.int (by decide), .bool false, List.forall_mem_nil _⟩
  have hconvertible : oddReport.IsConvertible := by
    unfold Report.IsConvertible
    decide
  refine ⟨hplain, hconvertible, (written_json_reads_back (some 2)).1 oddJson hplain, ?_⟩
  exact ((written_json_reads_back none).2 oddReport hconvertible).2 _ _ rfl

end CodeSmell
