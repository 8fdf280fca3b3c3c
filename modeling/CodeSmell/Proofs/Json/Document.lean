/-
Values and documents.

A value is a document without halves of surrogate pairs: `Document.ofJson` spells its texts
and keys. The document shows the value again (`toJson_ofJson`), a text is its own spelling
and that of no other text, and so the fields of a value are those of its document
(`get?_ofJson`). Whatever asks a document for its fields can so be told from values.
-/
import CodeSmell.Json.Document
import Mathlib.Data.List.Nodup

set_option autoImplicit false

namespace CodeSmell.Json

/-- What holds of a value if it holds of its elements or of the values of its fields holds of all
values. -/
theorem induct_parts {motive : Json → Prop} (null : motive .null)
    (bool : ∀ b, motive (.bool b)) (int : ∀ n, motive (.int n)) (float : ∀ x, motive (.float x))
    (str : ∀ s, motive (.str s)) (arr : ∀ items, (∀ j ∈ items, motive j) → motive (.arr items))
    (obj : ∀ fields, (∀ f ∈ fields, motive f.2) → motive (.obj fields)) : ∀ j : Json, motive j
  | .null => null
  | .bool b => bool b
  | .int n => int n
  | .float x => float x
  | .str s => str s
  | .arr items => arr items fun j _ => induct_parts null bool int float str arr obj j
  | .obj fields => obj fields fun f _ => induct_parts null bool int float str arr obj f.2
decreasing_by
  · have := List.sizeOf_lt_of_mem ‹j ∈ items›
    simp only [Json.arr.sizeOf_spec]
    omega
  · have := List.sizeOf_lt_of_mem ‹f ∈ fields›
    obtain ⟨k, j⟩ := f
    simp only [Json.obj.sizeOf_spec, Prod.mk.sizeOf_spec] at this ⊢
    omega

/-! ## Spellings -/

/-- A text has a spelling of its own. -/
theorem Spelling.ofString_inj {s t : String} : ofString s = ofString t ↔ s = t := by
  refine ⟨fun h => ?_, congrArg ofString⟩
  rw [← shown_ofString s, h, shown_ofString t]

/-- Texts of which none comes twice have spellings of which none does. -/
theorem Spelling.nodup_map_ofString {α : Type} {text : α → String} {items : List α}
    (h : (items.map text).Nodup) : (items.map fun a => ofString (text a)).Nodup := by
  have hmap : items.map (fun a => ofString (text a)) = (items.map text).map ofString := by
    rw [List.map_map]
    rfl
  rw [hmap]
  exact h.map fun _ _ => ofString_inj.mp

/-! ## Documents of values -/

namespace Document

mutual
/-- The document of a value. -/
def ofJson : Json → Document
  | .null => null
  | .bool b => bool b
  | .int n => int n
  | .float x => float x
  | .str s => str (.ofString s)
  | .arr items => arr (itemsOfJson items)
  | .obj fields => obj (fieldsOfJson fields)

/-- The elements of an array. -/
def itemsOfJson : List Json → List Document
  | [] => []
  | j :: rest => ofJson j :: itemsOfJson rest

/-- The fields of an object. -/
def fieldsOfJson : List (String × Json) → List (Spelling × Document)
  | [] => []
  | (k, j) :: rest => (.ofString k, ofJson j) :: fieldsOfJson rest
end

theorem ofJson_arr (items : List Json) : ofJson (.arr items) = arr (items.map ofJson) := by
  rw [ofJson]
  congr 1
  induction items with
  | nil => rfl
  | cons j rest ih => rw [itemsOfJson, ih, List.map_cons]

theorem ofJson_obj (fields : List (String × Json)) :
    ofJson (.obj fields) = obj (fields.map fun f => (.ofString f.1, ofJson f.2)) := by
  rw [ofJson]
  congr 1
  induction fields with
  | nil => rfl
  | cons f rest ih => rw [fieldsOfJson, ih, List.map_cons]

theorem toJson_arr (items : List Document) : (arr items).toJson = .arr (items.map toJson) := by
  rw [toJson]
  congr 1
  induction items with
  | nil => rfl
  | cons d rest ih => rw [itemsToJson, ih, List.map_cons]

theorem toJson_obj (fields : List (Spelling × Document)) :
    (obj fields).toJson = .obj (fields.map fun f => (f.1.shown, f.2.toJson)) := by
  rw [toJson]
  congr 1
  induction fields with
  | nil => rfl
  | cons f rest ih => rw [fieldsToJson, ih, List.map_cons]

/-- The document of a value shows the value. -/
theorem toJson_ofJson (j : Json) : (ofJson j).toJson = j := by
  induction j using induct_parts with
  | null => rfl
  | bool b => rfl
  | int n => rfl
  | float x => rfl
  | str s => rw [ofJson, toJson, Spelling.shown_ofString]
  | arr items ih =>
    have hsame : items.map (toJson ∘ ofJson) = items.map id := List.map_congr_left ih
    rw [ofJson_arr, toJson_arr, List.map_map, hsame, List.map_id]
  | obj fields ih =>
    rw [ofJson_obj, toJson_obj, List.map_map]
    congr 1
    refine Eq.trans (List.map_congr_left fun f hf => ?_) (List.map_id fields)
    rw [Function.comp_apply, Spelling.shown_ofString, ih f hf]
    rfl

/-- The fields of a value are those of its document. -/
theorem get?_ofJson (j : Json) (key : String) :
    (ofJson j).get? key = (j.get? key).map ofJson := by
  cases j with
  | obj fields =>
    rw [ofJson_obj]
    change List.lookup _ _ = Option.map ofJson (fields.lookup key)
    -- Both searches pass the same fields by, as two spellings are equal where the texts are.
    induction fields with
    | nil => rfl
    | cons f rest ih =>
      rw [List.map_cons, List.lookup_cons, List.lookup_cons]
      by_cases h : key = f.1
      · rw [beq_iff_eq.mpr h, beq_iff_eq.mpr (Spelling.ofString_inj.mpr h)]
        rfl
      · rw [beq_false_of_ne h, beq_false_of_ne (mt Spelling.ofString_inj.mp h)]
        exact ih
  | _ => rfl

end Document

end CodeSmell.Json
