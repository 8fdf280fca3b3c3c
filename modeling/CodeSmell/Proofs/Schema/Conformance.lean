/-
Violations and conformance.

What a schema accepts is said twice, as a list of violations and as a relation. The
two agree: a value has no violation exactly when it conforms. The proof goes along
the schema, one lemma for each form that the list of violations is put together
from. A record is the one form that looks at its value from two sides, the fields
that the schema names and those that the value has; for an object that has the
fields of its schema, in their order, nothing but the values is left to look at.
-/
import CodeSmell.Schema.Violation
import Mathlib.Data.List.Forall2

set_option autoImplicit false

namespace CodeSmell.Schema

/-! ## The parts of a list of violations -/

theorem breachIf_eq_nil_iff {condition : Bool} {b : Breach} :
    breachIf condition b = [] ↔ condition = false := by
  cases condition <;> simp [breachIf]

/-- No key is unexpected exactly when each of them is a name. -/
theorem unexpected_eq_nil_iff {names : List String} {fields : List (String × Json)} :
    unexpected names fields = [] ↔ ∀ f ∈ fields, f.1 ∈ names := by
  rw [unexpected, ← List.length_eq_zero_iff, List.length_mergeSort, List.length_eq_zero_iff,
    List.filter_eq_nil_iff]
  simp

theorem underIndexes_eq_nil_iff {violations : Json → List Violation} {i : Nat}
    {items : List Json} :
    underIndexes violations i items = [] ↔ ∀ j ∈ items, violations j = [] := by
  induction items generalizing i with
  | nil => simp [underIndexes]
  | cons j rest ih =>
    rw [underIndexes, List.append_eq_nil_iff, List.map_eq_nil_iff, ih, List.forall_mem_cons]

/-- No field is missing exactly when each of them is there. -/
theorem missing_eq_nil_iff {names : List String} {fields : List (String × Json)} :
    (names.filter fun name => (Json.field? fields name).isNone).map
        (fun name => here (.missingField name)) = []
      ↔ ∀ name ∈ names, (Json.field? fields name).isSome = true := by
  rw [List.map_eq_nil_iff, List.filter_eq_nil_iff]
  simp [Option.isSome_iff_ne_none]

/-! ## What conforms, form by form -/

namespace Conforms

theorem exactly_iff {t : String} {j : Json} : Conforms (.exactly t) j ↔ j = .str t := by
  constructor
  · rintro ⟨⟩
    rfl
  · rintro rfl
    exact .exactly t

theorem oneOf_iff {ts : List String} {j : Json} :
    Conforms (.oneOf ts) j ↔ ∃ t ∈ ts, j = .str t := by
  constructor
  · rintro ⟨⟩
    exact ⟨_, ‹_›, rfl⟩
  · rintro ⟨t, listed, rfl⟩
    exact .oneOf listed

theorem text_iff {nonEmpty : Bool} {j : Json} :
    Conforms (.text nonEmpty) j ↔ ∃ t, (nonEmpty = true → t ≠ "") ∧ j = .str t := by
  constructor
  · rintro ⟨⟩
    exact ⟨_, ‹_›, rfl⟩
  · rintro ⟨t, filled, rfl⟩
    exact .text filled

theorem textOrNull_iff {j : Json} :
    Conforms .textOrNull j ↔ j = .null ∨ ∃ t, j = .str t := by
  constructor
  · rintro (_ | _)
    · exact .inl rfl
    · exact .inr ⟨_, rfl⟩
  · rintro (rfl | ⟨t, rfl⟩)
    · exact .nullText
    · exact .someText t

theorem integer_iff {minimum : Int} {j : Json} :
    Conforms (.integer minimum) j ↔ j.isWhole = true ∧ j.isBelow minimum = false := by
  constructor
  · rintro ⟨⟩
    exact ⟨‹_›, ‹_›⟩
  · rintro ⟨whole, large⟩
    exact .integer whole large

theorem list_iff {name : String} {element : Schema} {j : Json} :
    Conforms (.list name element) j
      ↔ ∃ items, j = .arr items ∧ ∀ i ∈ items, Conforms element i := by
  constructor
  · rintro ⟨⟩
    exact ⟨_, rfl, ‹_›⟩
  · rintro ⟨items, rfl, each⟩
    exact .list each

theorem record_iff {schemas : List (String × Schema)} {j : Json} :
    Conforms (.record schemas) j ↔ ∃ fields, j = .obj fields
      ∧ (∀ f ∈ fields, f.1 ∈ schemas.map (·.1))
      ∧ (∀ s ∈ schemas, (Json.field? fields s.1).isSome = true)
      ∧ ∀ s ∈ schemas, ∀ i, Json.field? fields s.1 = some i → Conforms s.2 i := by
  constructor
  · rintro ⟨⟩
    exact ⟨_, rfl, ‹_›, ‹_›, ‹_›⟩
  · rintro ⟨fields, rfl, known, present, each⟩
    exact .record known present each

end Conforms

/-! ## No violation -/

mutual
/-- A value has no violation exactly when it conforms. -/
theorem violations_eq_nil_iff (s : Schema) (j : Json) : s.violations j = [] ↔ s.Conforms j := by
  match s with
  | exactly t =>
    rw [Conforms.exactly_iff]
    cases j <;> simp [violations, breachIf_eq_nil_iff]
  | oneOf ts =>
    rw [Conforms.oneOf_iff]
    cases j <;> simp [violations, breachIf_eq_nil_iff]
  | text nonEmpty =>
    rw [Conforms.text_iff]
    cases j <;> simp [violations, breachIf_eq_nil_iff]
  | textOrNull =>
    rw [Conforms.textOrNull_iff]
    cases j <;> simp [violations]
  | integer minimum =>
    rw [Conforms.integer_iff, violations, List.append_eq_nil_iff, breachIf_eq_nil_iff,
      breachIf_eq_nil_iff, Bool.not_eq_false']
  | list name element =>
    rw [Conforms.list_iff]
    cases j with
    | arr items =>
      simp only [violations, underIndexes_eq_nil_iff, violations_eq_nil_iff element]
      simp
    | _ => simp [violations]
  | record schemas =>
    rw [Conforms.record_iff]
    cases j with
    | obj fields =>
      simp only [violations, List.append_eq_nil_iff, breachIf_eq_nil_iff, missing_eq_nil_iff,
        fieldViolations_eq_nil_iff fields schemas, Bool.not_eq_false', List.isEmpty_iff,
        unexpected_eq_nil_iff, List.forall_mem_map]
      simp [and_assoc]
    | _ => simp [violations]

/-- The fields of an object have no violation exactly when they conform. -/
theorem fieldViolations_eq_nil_iff (fields : List (String × Json))
    (schemas : List (String × Schema)) :
    fieldViolations fields schemas = []
      ↔ ∀ s ∈ schemas, ∀ j, Json.field? fields s.1 = some j → s.2.Conforms j := by
  match schemas with
  | [] => simp [fieldViolations]
  | (name, s) :: rest =>
    rw [fieldViolations, List.append_eq_nil_iff, fieldViolations_eq_nil_iff fields rest,
      List.forall_mem_cons]
    cases h : Json.field? fields name with
    | none => simp
    | some j =>
      simp only [List.map_eq_nil_iff, violations_eq_nil_iff s j]
      simp
end

/-- A value passes the check exactly when it conforms. -/
theorem check_eq_ok_iff (s : Schema) (j : Json) : s.check j = .ok () ↔ s.Conforms j := by
  rw [← violations_eq_nil_iff, check]
  cases s.violations j with
  | nil => simp [Violation.select]
  | cons v rest => simp [Violation.select]

/-! ## Objects with the fields of their schema -/

/-- The field has the name that goes with the schema, and conforms. -/
def Fits (s : String × Schema) (f : String × Json) : Prop := s.1 = f.1 ∧ s.2.Conforms f.2

theorem names_of_fits {schemas : List (String × Schema)} {fields : List (String × Json)}
    (h : List.Forall₂ Fits schemas fields) : schemas.map (·.1) = fields.map (·.1) := by
  induction h with
  | nil => rfl
  | cons hfit _ ih => rw [List.map_cons, List.map_cons, ih, hfit.1]

/-- Among fields of different names, each is found by its name. -/
theorem exists_field_of_fits {schemas : List (String × Schema)} {fields : List (String × Json)}
    (h : List.Forall₂ Fits schemas fields) (distinct : (schemas.map (·.1)).Nodup)
    {s : String × Schema} (hs : s ∈ schemas) :
    ∃ j, Json.field? fields s.1 = some j ∧ s.2.Conforms j := by
  induction h with
  | nil => cases hs
  | @cons first f rest fields hfit _ ih =>
    obtain ⟨fresh, distinct⟩ := List.nodup_cons.mp distinct
    obtain ⟨name, j⟩ := f
    rcases List.mem_cons.mp hs with rfl | hs
    · exact ⟨j, by rw [Json.field?, hfit.1, List.lookup_cons_self], hfit.2⟩
    · have hother : s.1 ≠ name := by
        intro heq
        have hsame : s.1 = first.1 := heq.trans hfit.1.symm
        exact fresh (List.mem_map.mpr ⟨s, hs, hsame⟩)
      obtain ⟨i, hfield, hconforms⟩ := ih distinct hs
      refine ⟨i, ?_, hconforms⟩
      rw [Json.field?, List.lookup_cons, beq_false_of_ne hother]
      exact hfield

/-- An object conforms if it has the fields of the schema, in their order, and each
of them conforms. -/
theorem Conforms.of_fits {schemas : List (String × Schema)} {fields : List (String × Json)}
    (distinct : (schemas.map (·.1)).Nodup) (h : List.Forall₂ Fits schemas fields) :
    Conforms (.record schemas) (.obj fields) := by
  refine .record ?_ ?_ ?_
  · intro f hf
    rw [names_of_fits h]
    exact List.mem_map_of_mem hf
  · intro s hs
    obtain ⟨j, hfield, -⟩ := exists_field_of_fits h distinct hs
    rw [hfield, Option.isSome_some]
  · intro s hs j hfield
    obtain ⟨i, hfound, hconforms⟩ := exists_field_of_fits h distinct hs
    rw [hfound] at hfield
    exact Option.some.inj hfield ▸ hconforms

end CodeSmell.Schema
