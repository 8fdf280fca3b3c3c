/-
What a report has to be.

The contract of reports is written out here as a reader of reports would put it: six keys at
the top, three in the source, six in a finding, four in a diagnostic, and for each of them
what stands under it. Main statement: a value passes the check exactly if it keeps to this
contract; and where it does not, the place that is reported is there, the keyword that is
reported is broken at it by the written schema, and none is broken nearer to the top.

Objects are taken up to the order of their fields. A record of a schema is unfolded field by
field (`exists_fits_cons`), so what the contract says under a key is what the schema of the
key says.
-/
import CodeSmell.Proofs.Schema.Broken
import CodeSmell.Report.Schema

set_option autoImplicit false

namespace CodeSmell

open Json

/-! ## The contract -/

/-- An object with exactly these entries, in any order. -/
def IsObject (entries : List (String × Json)) (j : Json) : Prop :=
  ∃ fields, j = .obj fields ∧ ∀ key, field? fields key = field? entries key

/-- An integer from a minimum on, as such or as a fraction of that value. -/
def IsIntegerFrom (minimum : Int) (j : Json) : Prop := ∃ n, j.IsInteger n ∧ minimum ≤ n

/-- The source of a report. -/
def IsSource (j : Json) : Prop :=
  ∃ filename variant totalLines,
    IsObject [("filename", filename), ("variant", .str variant), ("total_lines", totalLines)] j
      ∧ (filename = .null ∨ ∃ name, filename = .str name)
      ∧ (variant = "typescript" ∨ variant = "tsx")
      ∧ IsIntegerFrom 1 totalLines

/-- A finding of a report. -/
def IsFinding (j : Json) : Prop :=
  ∃ id name description line message severity,
    IsObject
        [("id", .str id), ("name", .str name), ("description", .str description),
         ("line", line), ("message", .str message), ("severity", .str severity)] j
      ∧ id ∈ ["any-type", "long-param-list", "magic-number", "god-class", "callback-hell",
          "non-null-assertion"]
      ∧ name ≠ "" ∧ description ≠ "" ∧ IsIntegerFrom 1 line ∧ message ≠ ""
      ∧ severity ∈ ["high", "medium", "low"]

/-- A diagnostic of a report. -/
def IsDiagnostic (j : Json) : Prop :=
  ∃ ruleId nodeType line error,
    IsObject
        [("rule_id", .str ruleId), ("node_type", .str nodeType), ("line", line),
         ("error", .str error)] j
      ∧ IsIntegerFrom 1 line

/-- A report. -/
def IsReport (j : Json) : Prop :=
  ∃ version source count findings diagnostics,
    IsObject
        [("schema_version", .str "analysis_report_v1"), ("tool_version", .str version),
         ("source", source), ("count", count), ("findings", .arr findings),
         ("diagnostics", .arr diagnostics)] j
      ∧ IsSource source ∧ IsIntegerFrom 0 count
      ∧ (∀ f ∈ findings, IsFinding f) ∧ ∀ d ∈ diagnostics, IsDiagnostic d

/-! ## Records, field by field -/

namespace Schema

theorem Conforms.integer_iff_isIntegerFrom {minimum : Int} {j : Json} :
    Conforms (.integer minimum) j ↔ IsIntegerFrom minimum j := by
  rw [integer_iff, isWhole_iff]
  constructor
  · rintro ⟨⟨n, hn⟩, hlarge⟩
    exact ⟨n, hn, hn.isBelow_eq_false_iff.mp hlarge⟩
  · rintro ⟨n, hn, hlarge⟩
    exact ⟨⟨n, hn⟩, hn.isBelow_eq_false_iff.mpr hlarge⟩

/-- A value conforms to a record if it is an object whose entries fit the fields of the
record. -/
theorem Conforms.record_iff_isObject {schemas : List (String × Schema)}
    (distinct : (schemas.map (·.1)).Nodup) {j : Json} :
    Conforms (.record schemas) j
      ↔ ∃ entries, List.Forall₂ Fits schemas entries ∧ IsObject entries j := by
  rw [record_iff]
  constructor
  · rintro ⟨fields, rfl, known, present, each⟩
    -- The entries are what is found under the names.
    have hfound (s : String × Schema) (hs : s ∈ schemas) :
        field? fields s.1 = some ((field? fields s.1).getD .null) := by
      obtain ⟨value, hvalue⟩ := Option.isSome_iff_exists.mp (present s hs)
      rw [hvalue, Option.getD_some]
    have hnames : (schemas.map fun s => (s.1, (field? fields s.1).getD .null)).map (·.1)
        = schemas.map (·.1) := by
      rw [List.map_map]
      rfl
    refine ⟨schemas.map fun s => (s.1, (field? fields s.1).getD .null), ?_, fields, rfl, ?_⟩
    · refine List.forall₂_map_right_iff.mpr (List.forall₂_same.mpr fun s hs => ⟨rfl, ?_⟩)
      exact each s hs _ (hfound s hs)
    · intro key
      by_cases hkey : key ∈ schemas.map (·.1)
      · obtain ⟨s, hs, rfl⟩ := List.mem_map.mp hkey
        rw [hfound s hs, eq_comm, field?_eq_some_iff (hnames ▸ distinct)]
        exact List.mem_map.mpr ⟨s, hs, rfl⟩
      · have habsent : key ∉ fields.map (·.1) := by
          intro hmem
          obtain ⟨f, hf, rfl⟩ := List.mem_map.mp hmem
          exact hkey (known f hf)
        rw [field?_eq_none_iff.mpr habsent, eq_comm, field?_eq_none_iff, hnames]
        exact hkey
  · rintro ⟨entries, fits, fields, rfl, same⟩
    refine ⟨fields, rfl, ?_, ?_, ?_⟩
    · intro f hf
      by_contra habsent
      rw [names_of_fits fits, ← field?_eq_none_iff, ← same, field?_eq_none_iff] at habsent
      exact habsent (List.mem_map_of_mem hf)
    · intro s hs
      obtain ⟨value, hvalue, -⟩ := exists_field_of_fits fits distinct hs
      rw [same, hvalue, Option.isSome_some]
    · intro s hs value hvalue
      obtain ⟨found, hfound, hconforms⟩ := exists_field_of_fits fits distinct hs
      rw [same, hfound] at hvalue
      exact Option.some.inj hvalue ▸ hconforms

section

variable {p : List (String × Json) → Prop}

theorem exists_fits_nil : (∃ entries, List.Forall₂ Fits [] entries ∧ p entries) ↔ p [] := by
  simp only [List.forall₂_nil_left_iff, exists_eq_left]

/-- The first entry that fits holds a value that conforms. -/
theorem exists_fits_cons {name : String} {s : Schema} {schemas : List (String × Schema)} :
    (∃ entries, List.Forall₂ Fits ((name, s) :: schemas) entries ∧ p entries)
      ↔ ∃ value, s.Conforms value
          ∧ ∃ rest, List.Forall₂ Fits schemas rest ∧ p ((name, value) :: rest) := by
  constructor
  · rintro ⟨_, hfits, hp⟩
    obtain ⟨⟨_, value⟩, rest, ⟨rfl, hvalue⟩, hrest, rfl⟩ := List.forall₂_cons_left_iff.mp hfits
    exact ⟨value, hvalue, rest, hrest, hp⟩
  · rintro ⟨value, hvalue, rest, hrest, hp⟩
    exact ⟨_, .cons ⟨rfl, hvalue⟩ hrest, hp⟩

end

end Schema

open Schema

theorem Finding.conforms_iff {j : Json} : Finding.schema.Conforms j ↔ IsFinding j := by
  rw [Finding.schema, Conforms.record_iff_isObject (by decide)]
  simp only [exists_fits_cons, exists_fits_nil, Conforms.oneOf_iff, Conforms.text_iff,
    Conforms.integer_iff_isIntegerFrom, forall_const]
  constructor
  · rintro ⟨_, ⟨id, hid, rfl⟩, _, ⟨name, hname, rfl⟩, _, ⟨description, hdescription, rfl⟩,
      line, hline, _, ⟨message, hmessage, rfl⟩, _, ⟨severity, hseverity, rfl⟩, hobject⟩
    exact ⟨id, name, description, line, message, severity, hobject, hid, hname,
      hdescription, hline, hmessage, hseverity⟩
  · rintro ⟨id, name, description, line, message, severity, hobject, hid, hname, hdescription,
      hline, hmessage, hseverity⟩
    exact ⟨_, ⟨id, hid, rfl⟩, _, ⟨name, hname, rfl⟩, _, ⟨description, hdescription, rfl⟩,
      line, hline, _, ⟨message, hmessage, rfl⟩, _, ⟨severity, hseverity, rfl⟩, hobject⟩

theorem Diagnostic.conforms_iff {j : Json} : Diagnostic.schema.Conforms j ↔ IsDiagnostic j := by
  rw [Diagnostic.schema, Conforms.record_iff_isObject (by decide)]
  simp only [exists_fits_cons, exists_fits_nil, Conforms.text_iff,
    Conforms.integer_iff_isIntegerFrom]
  constructor
  · rintro ⟨_, ⟨ruleId, -, rfl⟩, _, ⟨nodeType, -, rfl⟩, line, hline, _, ⟨error, -, rfl⟩, hobject⟩
    exact ⟨ruleId, nodeType, line, error, hobject, hline⟩
  · rintro ⟨ruleId, nodeType, line, error, hobject, hline⟩
    exact ⟨_, ⟨ruleId, nofun, rfl⟩, _, ⟨nodeType, nofun, rfl⟩, line, hline, _,
      ⟨error, nofun, rfl⟩, hobject⟩

theorem Report.source_conforms_iff {j : Json} :
    Conforms (.record [("filename", .textOrNull),
        ("variant", .oneOf [Variant.typescript.text, Variant.tsx.text]),
        ("total_lines", .integer 1)]) j ↔ IsSource j := by
  have htexts (t : String) : t ∈ [Variant.typescript.text, Variant.tsx.text]
      ↔ t = "typescript" ∨ t = "tsx" := by
    simp [Variant.text]
  rw [Conforms.record_iff_isObject (by decide)]
  simp only [exists_fits_cons, exists_fits_nil, Conforms.textOrNull_iff, Conforms.oneOf_iff,
    Conforms.integer_iff_isIntegerFrom, htexts]
  constructor
  · rintro ⟨filename, hfilename, _, ⟨variant, hvariant, rfl⟩, totalLines, hlines, hobject⟩
    exact ⟨filename, variant, totalLines, hobject, hfilename, hvariant, hlines⟩
  · rintro ⟨filename, variant, totalLines, hobject, hfilename, hvariant, hlines⟩
    exact ⟨filename, hfilename, _, ⟨variant, hvariant, rfl⟩, totalLines, hlines, hobject⟩

theorem Report.conforms_iff {j : Json} : Report.schema.Conforms j ↔ IsReport j := by
  rw [Report.schema, Conforms.record_iff_isObject (by decide)]
  simp only [exists_fits_cons, exists_fits_nil, Conforms.exactly_iff, Conforms.text_iff,
    Report.source_conforms_iff, Conforms.integer_iff_isIntegerFrom, Conforms.list_iff,
    Finding.conforms_iff, Diagnostic.conforms_iff]
  constructor
  · rintro ⟨_, rfl, _, ⟨version, -, rfl⟩, source, hsource, count, hcount, _,
      ⟨findings, rfl, hfindings⟩, _, ⟨diagnostics, rfl, hdiagnostics⟩, hobject⟩
    exact ⟨version, source, count, findings, diagnostics, hobject, hsource, hcount, hfindings,
      hdiagnostics⟩
  · rintro ⟨version, source, count, findings, diagnostics, hobject, hsource, hcount, hfindings,
      hdiagnostics⟩
    exact ⟨_, rfl, _, ⟨version, nofun, rfl⟩, source, hsource, count, hcount, _,
      ⟨findings, rfl, hfindings⟩, _, ⟨diagnostics, rfl, hdiagnostics⟩, hobject⟩

/-! ## The written schema of reports -/

/-- The written schema of reports defines what its lists refer to. -/
theorem Report.readable_schema : Report.schema.Readable Report.schema.definitions := by
  have hfinding : Finding.schema.Readable Report.schema.definitions := by
    refine .record (by decide) ?_
    simp only [List.forall_mem_cons]
    exact ⟨.oneOf _, .text _, .text _, .integer _, .text _, .oneOf _, List.forall_mem_nil _⟩
  have hdiagnostic : Diagnostic.schema.Readable Report.schema.definitions := by
    refine .record (by decide) ?_
    simp only [List.forall_mem_cons]
    exact ⟨.text _, .text _, .integer _, .text _, List.forall_mem_nil _⟩
  refine .record (by decide) ?_
  simp only [List.forall_mem_cons]
  refine ⟨.exactly _, .text _, .record (by decide) ?_, .integer _, .list ?_ hfinding,
    .list ?_ hdiagnostic, List.forall_mem_nil _⟩
  · simp only [List.forall_mem_cons]
    exact ⟨.textOrNull, .oneOf _, .integer _, List.forall_mem_nil _⟩
  · rfl
  · rfl

theorem Report.documentNamed_schemaName : Schema.documentNamed Report.schemaName
    = .ok (Report.schema.document Report.schemaName "AnalysisReport") := by
  rw [Schema.documentNamed, Schema.named, if_pos rfl]
  rfl

/-- A value passes the check exactly if it is a report by the contract. Where it does not, a
keyword of the written schema is broken at the place that is reported, it is the one that is
reported, and no keyword is broken nearer to the top. -/
theorem report_contract (j : Json) :
    (Report.validate j = .ok () ↔ IsReport j)
      ∧ ∃ document definitions, Schema.documentNamed Report.schemaName = .ok document
          ∧ document.get? "$defs" = some (.obj definitions)
          ∧ ∀ v, Report.validate j = .error v →
              BreaksAt definitions document j v.path v.breach.keyword
                ∧ ∀ path keyword, BreaksAt definitions document j path keyword →
                    v.path.length ≤ path.length := by
  refine ⟨(check_eq_ok_iff _ j).trans Report.conforms_iff, _, Report.schema.definitions,
    Report.documentNamed_schemaName, rfl, ?_⟩
  intro v hv
  obtain ⟨hbroken, hleast⟩ := breaksAt_of_check_eq_error Report.readable_schema hv
  exact ⟨breaksAt_document.mpr hbroken,
    fun path keyword h => hleast path keyword (breaksAt_document.mp h)⟩

/-- A report with a truth value for its count, and with a finding that has no fields. -/
def miscounted : Json := .obj
  [("schema_version", .str "analysis_report_v1"), ("tool_version", .str "1"),
   ("source", .obj [("filename", .null), ("variant", .str "tsx"), ("total_lines", .int 2)]),
   ("count", .bool true), ("findings", .arr [.obj []]), ("diagnostics", .arr [])]

/-- It is no report, and what is reported of it is no deeper than the count. -/
theorem report_contract_miscounted :
    ¬IsReport miscounted ∧ ∃ v, Report.validate miscounted = .error v ∧ v.path.length ≤ 1 := by
  obtain ⟨hok, document, definitions, hdocument, -, herror⟩ := report_contract miscounted
  have hnot : ¬IsReport miscounted := by
    rintro ⟨version, source, count, findings, diagnostics, ⟨fields, hfields, hsame⟩, -, hcount, -⟩
    obtain rfl := Json.obj.inj hfields
    obtain rfl := Option.some.inj (hsame "count")
    obtain ⟨n, ⟨⟩, -⟩ := hcount
  refine ⟨hnot, ?_⟩
  cases hvalidate : Report.validate miscounted with
  | ok => exact absurd (hok.mp hvalidate) hnot
  | error v =>
    obtain rfl := Except.ok.inj (hdocument.symm.trans Report.documentNamed_schemaName)
    have hcount : BreaksAt definitions (Report.schema.document Report.schemaName "AnalysisReport")
        miscounted [.field "count"] "type" := by
      refine ⟨_, _, rfl, rfl, .str "integer", rfl, ?_⟩
      rintro ⟨n, ⟨⟩⟩
    exact ⟨v, rfl, (herror v hvalidate).2 _ _ hcount⟩

end CodeSmell
