/-
The order of fields does not matter to a check.

A schema looks up the fields that it names and counts those that it does not name in
the order of their keys, so an object is checked as its sorted form is. What a check
does show of the order is the text of a value that is not of the kind asked for, as
that value is named in the message. `Unordered` therefore says of a schema and a value
that the violations are the same ones, messages included: it holds of every scalar,
and of arrays and of objects with the fields of their schema if it holds inside them.
-/
import CodeSmell.Proofs.Json.Sorted
import CodeSmell.Schema.Violation

set_option autoImplicit false

namespace CodeSmell.Schema

open Json

/-- The violations by the value are those by its sorted form. -/
def Unordered (s : Schema) (j : Json) : Prop := s.violations j.sorted = s.violations j

/-- Nothing is sorted in a scalar. -/
theorem Unordered.scalar {s : Schema} {j : Json} (h : j.sorted = j) : s.Unordered j :=
  congrArg s.violations h

theorem underIndexes_congr {violations : Json → List Violation} {items : List Json}
    (h : ∀ j ∈ items, violations j.sorted = violations j) (i : Nat) :
    underIndexes violations i (items.map sorted) = underIndexes violations i items := by
  induction items generalizing i with
  | nil => rfl
  | cons j rest ih =>
    obtain ⟨hj, hrest⟩ := List.forall_mem_cons.mp h
    rw [List.map_cons, underIndexes, underIndexes, hj, ih hrest]

theorem Unordered.list {element : Schema} {items : List Json}
    (each : ∀ j ∈ items, element.Unordered j) (name : String) :
    (Schema.list name element).Unordered (.arr items) := by
  rw [Unordered, sorted_arr]
  exact underIndexes_congr each 0

/-! ## Objects -/

/-- Unexpected keys are named in their order, not in that of the fields. -/
theorem unexpected_perm {fields others : List (String × Json)}
    (h : (fields.map (·.1)).Perm (others.map (·.1))) (names : List String) :
    unexpected names fields = unexpected names others := by
  rw [unexpected, unexpected]
  apply List.Perm.eq_of_pairwise (fun _ _ _ _ => String.le_antisymm)
  · exact pairwise_mergeSort_key (fun name => name) _
  · exact pairwise_mergeSort_key (fun name => name) _
  · exact (List.mergeSort_perm _ _).trans ((h.filter _).trans (List.mergeSort_perm _ _).symm)

theorem fieldViolations_sorted {fields : List (String × Json)}
    (distinct : (fields.map (·.1)).Nodup) {schemas : List (String × Schema)}
    (each : ∀ s ∈ schemas, ∀ j, field? fields s.1 = some j → s.2.Unordered j) :
    fieldViolations ((sortFields fields).map fun f => (f.1, f.2.sorted)) schemas
      = fieldViolations fields schemas := by
  induction schemas with
  | nil => rfl
  | cons s rest ih =>
    obtain ⟨name, s⟩ := s
    obtain ⟨hs, hrest⟩ := List.forall_mem_cons.mp each
    rw [fieldViolations, fieldViolations, ih hrest, field?_sorted distinct]
    cases h : field? fields name with
    | none => rfl
    | some j =>
      have hj : s.violations j.sorted = s.violations j := hs j h
      simp only [Option.map_some, hj]

theorem Unordered.record {fields : List (String × Json)} (distinct : (fields.map (·.1)).Nodup)
    {schemas : List (String × Schema)}
    (each : ∀ s ∈ schemas, ∀ j, field? fields s.1 = some j → s.2.Unordered j) :
    (Schema.record schemas).Unordered (.obj fields) := by
  have hkeys : (((sortFields fields).map fun f => (f.1, f.2.sorted)).map (·.1)).Perm
      (fields.map (·.1)) := by
    rw [keys_map_snd]
    exact (sortFields_perm fields).map _
  have hmissing (name : String) :
      (field? ((sortFields fields).map fun f => (f.1, f.2.sorted)) name).isNone
        = (field? fields name).isNone := by
    rw [field?_sorted distinct, Option.isNone_map]
  rw [Unordered, sorted_obj, violations, violations]
  rw [unexpected_perm hkeys, fieldViolations_sorted distinct each]
  simp only [hmissing]

/-- An object of scalars is checked as its sorted form is, whatever the schema. -/
theorem Unordered.record_of_scalars {fields : List (String × Json)}
    (distinct : (fields.map (·.1)).Nodup) (scalars : ∀ f ∈ fields, f.2.sorted = f.2)
    (schemas : List (String × Schema)) : (Schema.record schemas).Unordered (.obj fields) := by
  refine .record distinct fun s _ j hj => .scalar ?_
  exact scalars (s.1, j) ((field?_eq_some_iff distinct).mp hj)

end CodeSmell.Schema
