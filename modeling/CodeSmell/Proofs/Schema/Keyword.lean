/-
The keywords of a written schema.

A written schema is a JSON object whose keywords each say one thing of a value. Which keyword
a value fails, and which part of the schema is asked of which part of the value, can be read
off the two documents alone, without the form that was written. Main statements: for each
form, the keywords of its written object that a value can break (`breaks_exactly_iff` to
`breaks_record_iff`).

Numbers are compared as such: a fraction is an integer if it is finite and its value is one.
-/
import CodeSmell.Proofs.Json.Sorted
import CodeSmell.Proofs.Number.Comparison
import CodeSmell.Schema.Violation

set_option autoImplicit false

namespace CodeSmell

namespace Json

/-! ## Numbers -/

/-- The value is an integer, as such or as a fraction of that value. -/
inductive IsInteger : Json → Int → Prop where
  | int (n : Int) : IsInteger (.int n) n
  | float {x : Binary64} {n : Int} (finite : x.magnitude < Binary64.infinityBits)
      (value : x.value = n) : IsInteger (.float x) n

/-- The value is a number below a limit. -/
inductive LessThan (limit : Int) : Json → Prop where
  | int {n : Int} (less : n < limit) : LessThan limit (.int n)
  | float {x : Binary64} (finite : x.magnitude < Binary64.infinityBits) (less : x.value < limit) :
      LessThan limit (.float x)
  | negativeInfinity {x : Binary64} (infinite : x.isInfinite = true)
      (negative : x.negative = true) : LessThan limit (.float x)

theorem isWhole_iff {j : Json} : j.isWhole = true ↔ ∃ n, j.IsInteger n := by
  constructor
  · intro h
    cases j with
    | int n => exact ⟨n, .int n⟩
    | float x =>
      obtain ⟨finite, n, value⟩ := Binary64.isIntegral_iff.mp h
      exact ⟨n, .float finite value⟩
    | _ => cases h
  · rintro ⟨n, ⟨⟩ | ⟨finite, value⟩⟩
    · rfl
    · exact Binary64.isIntegral_iff.mpr ⟨finite, n, value⟩

theorem isBelow_iff {limit : Int} {j : Json} : j.isBelow limit = true ↔ j.LessThan limit := by
  constructor
  · intro h
    cases j with
    | int n => exact .int (of_decide_eq_true h)
    | float x =>
      rw [isBelow] at h
      by_cases finite : x.magnitude < Binary64.infinityBits
      · exact .float finite ((Binary64.ltInt_iff finite).mp h)
      · rw [Binary64.ltInt_of_not_finite finite, Bool.and_eq_true] at h
        exact .negativeInfinity h.1 h.2
    | _ => cases h
  · rintro (less | ⟨finite, less⟩ | ⟨infinite, negative⟩)
    · exact decide_eq_true less
    · exact (Binary64.ltInt_iff finite).mpr less
    · rw [isBelow, Binary64.ltInt_of_not_finite, infinite, negative]
      · rfl
      · exact Nat.not_lt.mpr (Nat.le_of_eq (beq_iff_eq.mp infinite).symm)

/-- An integer is not below a limit exactly if its value is not. -/
theorem IsInteger.isBelow_eq_false_iff {limit n : Int} {j : Json} (h : j.IsInteger n) :
    j.isBelow limit = false ↔ limit ≤ n := by
  rw [← Bool.not_eq_true]
  cases h with
  | int n => simp [isBelow]
  | @float x n finite value =>
    change ¬x.ltInt limit = true ↔ _
    rw [Binary64.ltInt_iff finite, value, Int.cast_lt, Int.not_lt]

/-! ## Kinds and places -/

theorem field?_eq_none_iff {fields : List (String × Json)} {key : String} :
    field? fields key = none ↔ key ∉ fields.map (·.1) := by
  rw [field?, List.lookup_eq_none_iff, List.mem_map]
  constructor
  · rintro h ⟨f, hf, rfl⟩
    exact bne_iff_ne.mp (h f hf) rfl
  · intro h f hf
    exact bne_iff_ne.mpr fun hkey => h ⟨f, hf, hkey.symm⟩

/-- The value is of the kind of a name. -/
def HasKind (j : Json) : String → Prop
  | "null" => j = .null
  | "boolean" => ∃ b, j = .bool b
  | "integer" => ∃ n, j.IsInteger n
  | "number" => (∃ n, j = .int n) ∨ ∃ x, j = .float x
  | "string" => ∃ t, j = .str t
  | "array" => ∃ items, j = .arr items
  | "object" => ∃ fields, j = .obj fields
  | _ => False

/-- The value that a step leads to. -/
def inner? (j : Json) : Step → Option Json
  | .field key => j.get? key
  | .index i =>
    match j with
    | arr items => items[i]?
    | _ => none

/-- The value at the end of a path. -/
def at? (j : Json) (path : List Step) : Option Json := path.foldlM inner? j

end Json

namespace Schema

open Json

/-! ## Reading a written schema -/

/-- A value fails a keyword of a written schema, which stands there with an argument. A
keyword speaks of the values that it applies to and lets all others pass; constants are texts,
and limits are integers. -/
def Fails (written j : Json) : String → Json → Prop
  | "type", .str name => ¬j.HasKind name
  | "type", .arr names => ∀ name, .str name ∈ names → ¬j.HasKind name
  | "const", .str t => j ≠ .str t
  | "enum", .arr options => ∀ t, .str t ∈ options → j ≠ .str t
  | "minimum", .int limit => j.LessThan limit
  | "minLength", .int least => ∃ t, j = .str t ∧ (t.length : Int) < least
  | "required", .arr names => ∃ fields, j = .obj fields
      ∧ ∃ key, .str key ∈ names ∧ field? fields key = none
  | "additionalProperties", .bool false => ∃ fields, j = .obj fields
      ∧ ∃ f ∈ fields, (written.get? "properties").bind (·.get? f.1) = none
  | _, _ => False

/-- A value breaks a keyword of a written schema. -/
def Breaks (written j : Json) (keyword : String) : Prop :=
  ∃ argument, written.get? keyword = some argument ∧ Fails written j keyword argument

/-- What stands for a written schema: its definition if it is a reference to one, else the
schema itself. -/
def resolve? (definitions : List (String × Json)) (written : Json) : Option Json :=
  match written.get? "$ref" with
  | some (.str target) => (definitions.find? fun d => "#/$defs/" ++ d.1 = target).map (·.2)
  | _ => some written

/-- The part of a written schema that is asked of what a step leads to. -/
def part? (definitions : List (String × Json)) (written : Json) : Step → Option Json
  | .field key => ((written.get? "properties").bind (·.get? key)).bind (resolve? definitions)
  | .index _ => (written.get? "items").bind (resolve? definitions)

/-- The part of a written schema that is asked of what stands at a path. -/
def partAt? (definitions : List (String × Json)) (written : Json) (path : List Step) :
    Option Json :=
  path.foldlM (part? definitions) written

/-- What stands at a path breaks a keyword of the part of the schema that is asked of it. -/
def BreaksAt (definitions : List (String × Json)) (written j : Json) (path : List Step)
    (keyword : String) : Prop :=
  ∃ inner value, partAt? definitions written path = some inner ∧ j.at? path = some value
    ∧ Breaks inner value keyword

section

variable {definitions : List (String × Json)} {written j : Json} {path : List Step}
  {keyword : String}

theorem breaksAt_nil : BreaksAt definitions written j [] keyword ↔ Breaks written j keyword := by
  constructor
  · rintro ⟨inner, value, hinner, hvalue, h⟩
    obtain rfl := Option.some.inj hinner
    obtain rfl := Option.some.inj hvalue
    exact h
  · intro h
    exact ⟨written, j, rfl, rfl, h⟩

theorem breaksAt_cons {step : Step} :
    BreaksAt definitions written j (step :: path) keyword
      ↔ ∃ inner value, part? definitions written step = some inner ∧ j.inner? step = some value
          ∧ BreaksAt definitions inner value path keyword := by
  constructor
  · rintro ⟨inner, value, hinner, hvalue, h⟩
    obtain ⟨next, hnext, hinner⟩ := Option.bind_eq_some_iff.mp hinner
    obtain ⟨found, hfound, hvalue⟩ := Option.bind_eq_some_iff.mp hvalue
    exact ⟨next, found, hnext, hfound, inner, value, hinner, hvalue, h⟩
  · rintro ⟨next, found, hnext, hfound, inner, value, hinner, hvalue, h⟩
    exact ⟨inner, value, Option.bind_eq_some_iff.mpr ⟨next, hnext, hinner⟩,
      Option.bind_eq_some_iff.mpr ⟨found, hfound, hvalue⟩, h⟩

/-- A keyword is broken if one of the entries of the schema has it and is failed. -/
theorem breaks_obj_iff {entries : List (String × Json)} (distinct : (entries.map (·.1)).Nodup) :
    Breaks (.obj entries) j keyword
      ↔ ∃ e ∈ entries, keyword = e.1 ∧ Fails (.obj entries) j e.1 e.2 := by
  constructor
  · rintro ⟨argument, hget, hfails⟩
    exact ⟨(keyword, argument), (field?_eq_some_iff distinct).mp hget, rfl, hfails⟩
  · rintro ⟨⟨_, argument⟩, hmem, rfl, hfails⟩
    exact ⟨argument, (field?_eq_some_iff distinct).mpr hmem, hfails⟩

end

/-! ## Schemas as documents -/

/-- Of the keywords around it, a failure depends on the properties alone. -/
theorem fails_congr {written other j argument : Json} {keyword : String}
    (h : written.get? "properties" = other.get? "properties") :
    Fails written j keyword argument ↔ Fails other j keyword argument := by
  unfold Fails
  rw [h]

/-- The keys that a document has around its schema. None of them is failed by a value. -/
def documentKeys : List String := ["$schema", "$id", "title", "$defs"]

theorem not_fails_of_mem_documentKeys {keyword : String} (h : keyword ∈ documentKeys)
    (written j argument : Json) : ¬Fails written j keyword argument := by
  simp only [documentKeys, List.mem_cons, List.not_mem_nil, or_false] at h
  rcases h with rfl | rfl | rfl | rfl <;> simp [Fails]

theorem exists_toJson_eq_obj (s : Schema) : ∃ entries, s.toJson = .obj entries := by
  cases s <;> exact ⟨_, rfl⟩

/-- A document says under every other key what its schema says. -/
theorem get?_document {key : String} (h : key ∉ documentKeys) (s : Schema) (id title : String) :
    (s.document id title).get? key = s.toJson.get? key := by
  obtain ⟨entries, hentries⟩ := s.exists_toJson_eq_obj
  simp only [documentKeys, List.mem_cons, List.not_mem_nil, or_false, not_or] at h
  obtain ⟨hschema, hid, htitle, hdefs⟩ := h
  have hlast : field? [("$defs", Json.obj s.definitions)] key = none := by
    rw [field?_cons, if_neg hdefs]
    rfl
  rw [document, hentries, objectFields, List.cons_append, List.cons_append, List.cons_append, get?,
    get?, field?_cons, if_neg hschema, field?_cons, if_neg hid, field?_cons, if_neg htitle]
  rw [field?, List.lookup_append, ← field?, ← field?, hlast, Option.or_none]

/-- A document is broken where its schema is. -/
theorem breaksAt_document {definitions : List (String × Json)} {s : Schema} {id title : String}
    {j : Json} {path : List Step} {keyword : String} :
    BreaksAt definitions (s.document id title) j path keyword
      ↔ BreaksAt definitions s.toJson j path keyword := by
  have hproperties := get?_document (by decide : "properties" ∉ documentKeys) s id title
  have hitems := get?_document (by decide : "items" ∉ documentKeys) s id title
  cases path with
  | nil =>
    -- The keys that only the document has cannot be failed, so they break nothing.
    rw [breaksAt_nil, breaksAt_nil, Breaks, Breaks]
    simp only [fails_congr hproperties]
    refine exists_congr fun argument => and_congr_left fun hfails => ?_
    rw [get?_document (fun hkey => not_fails_of_mem_documentKeys hkey _ _ _ hfails)]
  | cons step path =>
    have hpart : part? definitions (s.document id title) step
        = part? definitions s.toJson step := by
      cases step with
      | field key => rw [part?, part?, hproperties]
      | index i => rw [part?, part?, hitems]
    rw [breaksAt_cons, breaksAt_cons, hpart]

/-! ## The keywords of each form -/

section

variable {j : Json} {k : String}

theorem breaks_exactly_iff {t : String} :
    Breaks (exactly t).toJson j k ↔ k = "const" ∧ j ≠ .str t := by
  rw [toJson, breaks_obj_iff (by simp)]
  simp [Fails]

theorem breaks_oneOf_iff {ts : List String} :
    Breaks (oneOf ts).toJson j k ↔ k = "enum" ∧ ∀ t, j = .str t → t ∉ ts := by
  rw [toJson, breaks_obj_iff (by simp)]
  simp [Fails, imp_not_comm]

theorem breaks_text_iff {nonEmpty : Bool} :
    Breaks (text nonEmpty).toJson j k ↔ (k = "type" ∧ ∀ t, j ≠ .str t)
      ∨ (k = "minLength" ∧ nonEmpty = true ∧ j = .str "") := by
  cases nonEmpty with
  | false =>
    rw [toJson, breaks_obj_iff (by simp [kind])]
    simp [Fails, kind, HasKind]
  | true =>
    rw [toJson, breaks_obj_iff (by simp [kind])]
    simp [Fails, kind, HasKind]

theorem breaks_textOrNull_iff :
    Breaks textOrNull.toJson j k ↔ k = "type" ∧ (∀ t, j ≠ .str t) ∧ j ≠ .null := by
  rw [toJson, breaks_obj_iff (by simp)]
  simp [Fails, HasKind]

theorem breaks_integer_iff {minimum : Int} :
    Breaks (integer minimum).toJson j k ↔ (k = "type" ∧ j.isWhole = false)
      ∨ (k = "minimum" ∧ j.isBelow minimum = true) := by
  rw [toJson, breaks_obj_iff (by simp [kind]), isBelow_iff, ← Bool.not_eq_true, isWhole_iff]
  simp [Fails, kind, HasKind]

theorem breaks_list_iff {name : String} {element : Schema} :
    Breaks (list name element).toJson j k ↔ k = "type" ∧ ∀ items, j ≠ .arr items := by
  rw [toJson, breaks_obj_iff (by simp [kind])]
  simp [Fails, kind, HasKind]

theorem fieldsJson_eq_map (schemas : List (String × Schema)) :
    fieldsJson schemas = schemas.map fun s => (s.1, s.2.toJson) := by
  induction schemas with
  | nil => rfl
  | cons s rest ih => rw [fieldsJson, ih, List.map_cons]

theorem breaks_record_iff {schemas : List (String × Schema)} :
    Breaks (record schemas).toJson j k ↔ (k = "type" ∧ ∀ fields, j ≠ .obj fields)
      ∨ (k = "additionalProperties" ∧ ∃ fields, j = .obj fields
          ∧ ∃ f ∈ fields, f.1 ∉ schemas.map (·.1))
      ∨ (k = "required" ∧ ∃ fields, j = .obj fields
          ∧ ∃ name ∈ schemas.map (·.1), field? fields name = none) := by
  have hproperties (key : String) :
      ((record schemas).toJson.get? "properties").bind (·.get? key) = none
        ↔ key ∉ schemas.map (·.1) := by
    change field? (fieldsJson schemas) key = none ↔ _
    rw [field?_eq_none_iff, fieldsJson_eq_map, List.map_map]
    rfl
  have hnames (key : String) :
      Json.str key ∈ schemas.map (fun f => .str f.1) ↔ key ∈ schemas.map (·.1) := by
    simp
  have hkind : ¬j.HasKind "object" ↔ ∀ fields, j ≠ .obj fields := not_exists
  rw [toJson, kind] at hproperties ⊢
  rw [breaks_obj_iff (by simp)]
  simp only [List.mem_cons, exists_eq_or_imp, List.not_mem_nil, or_false, exists_eq_left, Fails,
    hproperties, hnames, hkind]
  simp

end

end Schema

end CodeSmell
