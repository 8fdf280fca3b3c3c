/-
The order of fields.

A writer puts the fields of every object in the order of their keys, so a text tells
nothing about the order that they came in. What it does tell is the value with its
fields in that order at every depth, `sorted`, and up to the order of fields this is
the value itself. `Same` says what that means: scalars are equal, arrays agree element
by element, and objects have the same keys, each with the same value.

All this is about values in which a key names one field. `IsPlain` asks for that, and
for what else a text has to have to be read back: no fractions, and no integer with
more digits than are converted.
-/
import CodeSmell.Datum.Basic
import CodeSmell.Number.Reading
import Mathlib.Data.List.Nodup

set_option autoImplicit false

namespace CodeSmell

namespace Json

/-- A value without fractions, whose integers are not longer than what is converted
and whose objects have no key twice. -/
inductive IsPlain : Json → Prop where
  | null : IsPlain .null
  | bool (b : Bool) : IsPlain (.bool b)
  | int {n : Int} (limit : (naturalDigits n.natAbs).length ≤ Reading.digitLimit) :
      IsPlain (.int n)
  | str (s : String) : IsPlain (.str s)
  | arr {items : List Json} (each : ∀ j ∈ items, IsPlain j) : IsPlain (.arr items)
  | obj {fields : List (String × Json)} (distinct : (fields.map (·.1)).Nodup)
      (each : ∀ f ∈ fields, IsPlain f.2) : IsPlain (.obj fields)

/-- The values are equal up to the order of the fields of objects. -/
inductive Same : Json → Json → Prop where
  | null : Same .null .null
  | bool (b : Bool) : Same (.bool b) (.bool b)
  | int (n : Int) : Same (.int n) (.int n)
  | str (s : String) : Same (.str s) (.str s)
  | arr {items others : List Json} (each : List.Forall₂ Same items others) :
      Same (.arr items) (.arr others)
  | obj {fields others : List (String × Json)}
      (keys : (fields.map (·.1)).Perm (others.map (·.1)))
      (each : ∀ key j k, field? fields key = some j → field? others key = some k → Same j k) :
      Same (.obj fields) (.obj others)

mutual
/-- The value with the fields of its objects in the order of their keys. -/
def sorted : Json → Json
  | .arr items => .arr (sortedItems items)
  | .obj fields => .obj (sortFields (sortedFields fields))
  | j => j

/-- The elements of an array, sorted inside. -/
def sortedItems : List Json → List Json
  | [] => []
  | j :: rest => sorted j :: sortedItems rest

/-- The fields of an object in their order, sorted inside. -/
def sortedFields : List (String × Json) → List (String × Json)
  | [] => []
  | (k, j) :: rest => (k, sorted j) :: sortedFields rest
end

/-! ## Fields -/

theorem field?_cons (key k : String) (j : Json) (rest : List (String × Json)) :
    field? ((k, j) :: rest) key = if key = k then some j else field? rest key := by
  rw [field?, List.lookup_cons]
  by_cases h : key = k
  · rw [if_pos h, beq_iff_eq.mpr h]
  · rw [if_neg h, beq_false_of_ne h]
    rfl

/-- Where a key names one field, the value of a key is that of the field that has it. -/
theorem field?_eq_some_iff {fields : List (String × Json)} (distinct : (fields.map (·.1)).Nodup)
    {key : String} {j : Json} : field? fields key = some j ↔ (key, j) ∈ fields := by
  induction fields with
  | nil => exact iff_of_false (fun h => nomatch h) List.not_mem_nil
  | cons f rest ih =>
    obtain ⟨k, i⟩ := f
    obtain ⟨fresh, distinct⟩ := List.nodup_cons.mp distinct
    rw [field?_cons, List.mem_cons, Prod.mk.injEq]
    by_cases h : key = k
    · have habsent : (key, j) ∉ rest := fun hmem => fresh (List.mem_map.mpr ⟨_, hmem, h⟩)
      rw [if_pos h, Option.some_inj, eq_comm]
      exact ⟨fun hj => .inl ⟨h, hj⟩, fun hj => hj.elim (·.2) (absurd · habsent)⟩
    · rw [if_neg h, ih distinct]
      exact ⟨.inr, fun hj => hj.resolve_left fun heq => h heq.1⟩

/-- The order of fields does not matter to looking them up. -/
theorem field?_perm {fields others : List (String × Json)} (h : fields.Perm others)
    (distinct : (fields.map (·.1)).Nodup) (key : String) :
    field? fields key = field? others key := by
  apply Option.ext
  intro j
  rw [field?_eq_some_iff distinct, field?_eq_some_iff ((h.map _).nodup distinct), h.mem_iff]

theorem field?_map_snd (g : Json → Json) (fields : List (String × Json)) (key : String) :
    field? (fields.map fun f => (f.1, g f.2)) key = (field? fields key).map g := by
  induction fields with
  | nil => rfl
  | cons f rest ih =>
    rw [List.map_cons, field?_cons, field?_cons, ih]
    by_cases h : key = f.1
    · rw [if_pos h, if_pos h, Option.map_some]
    · rw [if_neg h, if_neg h]

/-! ## Sorting -/

/-- Sorted by a text, the texts do not decrease. -/
theorem pairwise_mergeSort_key {α : Type} (key : α → String) (l : List α) :
    (l.mergeSort fun a b => decide (key a ≤ key b)).Pairwise fun a b => key a ≤ key b := by
  have htrans (a b c : α) (hab : decide (key a ≤ key b) = true)
      (hbc : decide (key b ≤ key c) = true) : decide (key a ≤ key c) = true :=
    decide_eq_true (String.le_trans (of_decide_eq_true hab) (of_decide_eq_true hbc))
  have htotal (a b : α) : (decide (key a ≤ key b) || decide (key b ≤ key a)) = true := by
    rw [Bool.or_eq_true, decide_eq_true_iff, decide_eq_true_iff]
    exact String.le_total (key a) (key b)
  exact (List.pairwise_mergeSort htrans htotal l).imp of_decide_eq_true

theorem sortFields_perm {α : Type} (fields : List (String × α)) :
    (sortFields fields).Perm fields :=
  List.mergeSort_perm _ _

/-- Only the keys count for the order of fields. -/
theorem sortFields_map_snd {α β : Type} (g : α → β) (fields : List (String × α)) :
    sortFields (fields.map fun f => (f.1, g f.2))
      = (sortFields fields).map fun f => (f.1, g f.2) := by
  rw [sortFields, sortFields, List.map_mergeSort]
  intro a _ b _
  rfl

theorem sortedItems_eq (items : List Json) : sortedItems items = items.map sorted := by
  induction items with
  | nil => rfl
  | cons j rest ih => rw [sortedItems, ih, List.map_cons]

theorem sortedFields_eq (fields : List (String × Json)) :
    sortedFields fields = fields.map fun f => (f.1, f.2.sorted) := by
  induction fields with
  | nil => rfl
  | cons f rest ih => rw [sortedFields, ih, List.map_cons]

theorem sorted_arr (items : List Json) : (Json.arr items).sorted = .arr (items.map sorted) := by
  rw [sorted, sortedItems_eq]

theorem sorted_obj (fields : List (String × Json)) :
    (Json.obj fields).sorted = .obj ((sortFields fields).map fun f => (f.1, f.2.sorted)) := by
  rw [sorted, sortedFields_eq, sortFields_map_snd]

theorem keys_map_snd (g : Json → Json) (fields : List (String × Json)) :
    (fields.map fun f => (f.1, g f.2)).map (·.1) = fields.map (·.1) := by
  rw [List.map_map]
  rfl

/-- In the sorted form of an object a key has the sorted form of its value. -/
theorem field?_sorted {fields : List (String × Json)} (distinct : (fields.map (·.1)).Nodup)
    (key : String) :
    field? ((sortFields fields).map fun f => (f.1, f.2.sorted)) key
      = (field? fields key).map sorted := by
  rw [field?_map_snd, ← field?_perm (sortFields_perm fields).symm distinct]

theorem get?_sorted {fields : List (String × Json)} (distinct : (fields.map (·.1)).Nodup)
    (key : String) : (Json.obj fields).sorted.get? key = ((Json.obj fields).get? key).map sorted := by
  rw [sorted_obj]
  exact field?_sorted distinct key

/-- Sorting a value changes nothing but the order of fields. -/
theorem IsPlain.same_sorted {j : Json} (h : j.IsPlain) : j.Same j.sorted := by
  induction h with
  | null => exact .null
  | bool b => exact .bool b
  | int _ => exact .int _
  | str s => exact .str s
  | @arr items _ ih =>
    rw [sorted_arr]
    exact .arr (List.forall₂_map_right_iff.mpr (List.forall₂_same.mpr ih))
  | @obj fields distinct _ ih =>
    rw [sorted_obj]
    refine .obj ?_ ?_
    · rw [keys_map_snd]
      exact ((sortFields_perm fields).map _).symm
    · intro key j k hj hk
      rw [field?_sorted distinct, hj, Option.map_some, Option.some_inj] at hk
      exact hk ▸ ih (key, j) ((field?_eq_some_iff distinct).mp hj)

end Json

/-! ## Values as data -/

namespace Datum

mutual
/-- The data that a JSON value is, with texts for keys. -/
def ofJson : Json → Datum
  | .null => .null
  | .bool b => .bool b
  | .int n => .int n
  | .float x => .float x
  | .str s => .text s
  | .arr items => .list (ofItems items)
  | .obj fields => .map (ofFields fields)

/-- The elements of an array as data. -/
def ofItems : List Json → List Datum
  | [] => []
  | j :: rest => ofJson j :: ofItems rest

/-- The fields of an object as entries of a map. -/
def ofFields : List (String × Json) → List (Datum × Datum)
  | [] => []
  | (k, j) :: rest => (.text k, ofJson j) :: ofFields rest
end

end Datum

/-- A key that is not there is put at the end. -/
theorem Json.put_of_fresh {κ α : Type} [DecidableEq κ] {key : κ} {fields : List (κ × α)}
    (fresh : key ∉ fields.map (·.1)) (value : α) :
    put key value fields = fields ++ [(key, value)] := by
  induction fields with
  | nil => rfl
  | cons f rest ih =>
    obtain ⟨hne, fresh⟩ := not_or.mp (mt List.mem_cons.mpr fresh)
    rw [put, if_neg (Ne.symm hne), ih fresh, List.cons_append]

namespace Datum

theorem itemsJson_eq (items : List Datum) : itemsJson items = items.map toJson := by
  induction items with
  | nil => rfl
  | cons d rest ih => rw [itemsJson, ih, List.map_cons]

/-- Entries with keys of their own are put one behind the other. -/
theorem entriesJson_append {acc : List (String × Json)} {entries : List (Datum × Datum)}
    (distinct : (acc.map (·.1) ++ entries.map (·.1.display)).Nodup) :
    entriesJson acc entries = acc ++ entries.map fun e => (e.1.display, e.2.toJson) := by
  induction entries generalizing acc with
  | nil => exact (List.append_nil acc).symm
  | cons e rest ih =>
    obtain ⟨key, d⟩ := e
    have fresh : key.display ∉ acc.map (·.1) := by
      intro hmem
      exact (List.nodup_append.mp distinct).2.2 _ hmem _ List.mem_cons_self rfl
    rw [entriesJson, Json.put_of_fresh fresh, ih]
    · rw [List.map_cons, List.append_assoc, List.singleton_append]
    · rwa [List.map_append, List.map_singleton, List.append_assoc, List.singleton_append]

/-- A map whose keys have texts of their own is an object with a field for each entry. -/
theorem toJson_map {entries : List (Datum × Datum)}
    (distinct : (entries.map (·.1.display)).Nodup) :
    (Datum.map entries).toJson = .obj (entries.map fun e => (e.1.display, e.2.toJson)) := by
  have hentries : entriesJson [] entries
      = [] ++ entries.map fun e => (e.1.display, e.2.toJson) := entriesJson_append distinct
  rw [toJson, hentries, List.nil_append]

theorem ofItems_eq (items : List Json) : ofItems items = items.map ofJson := by
  induction items with
  | nil => rfl
  | cons j rest ih => rw [ofItems, ih, List.map_cons]

theorem ofFields_eq (fields : List (String × Json)) :
    ofFields fields = fields.map fun f => (.text f.1, ofJson f.2) := by
  induction fields with
  | nil => rfl
  | cons f rest ih => rw [ofFields, ih, List.map_cons]

/-- As data a plain value is written as itself. -/
theorem toJson_ofJson {j : Json} (h : j.IsPlain) : (ofJson j).toJson = j := by
  induction h with
  | null => rfl
  | bool b => rfl
  | int _ => rfl
  | str s => rfl
  | arr _ ih =>
    rw [ofJson, toJson, itemsJson_eq, ofItems_eq, List.map_map]
    exact congrArg Json.arr ((List.map_congr_left ih).trans (List.map_id' _))
  | @obj fields distinct _ ih =>
    have hkeys : ((fields.map fun f => (Datum.text f.1, ofJson f.2)).map (·.1.display))
        = fields.map (·.1) := by
      rw [List.map_map]
      rfl
    rw [ofJson, ofFields_eq, toJson_map (hkeys ▸ distinct), List.map_map]
    refine congrArg Json.obj ((List.map_congr_left ?_).trans (List.map_id' _))
    intro f hf
    exact congrArg (f.1, ·) (ih f hf)

end Datum

end CodeSmell
