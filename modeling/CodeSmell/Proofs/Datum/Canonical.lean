/-
The canonical text.

Data that differ in nothing but the order in which entries came into maps, and in whether their
sequences are lists or tuples, have one text (`Alike`). Two things make it so. Every container
is reached before any key is sorted, those in reports included, and a key of whatever kind is
sorted as the text that shows it. So all such data come to one JSON value with the keys of its
objects in increasing order, and the text is that value as it stands, field by field (`spell`).

What the text says of the data is stated apart from how it is made (`Shows`): elements in their
order, and under the text of each key the value that the map has there.

Main statement (`canonical_text`): data without fractions, in whose maps no two keys have one
text, have the same text as all data alike, with any indentation or none; it spells an ordered
value that shows them, and is read as that value; without an indentation it is one line.
-/
import CodeSmell.Proofs.Report.RoundTrip

set_option autoImplicit false

namespace CodeSmell

/-! ## Values with their keys in order -/

namespace Json

/-- The keys of every object increase, by code point. -/
inductive Ordered : Json → Prop where
  | null : Ordered .null
  | bool (b : Bool) : Ordered (.bool b)
  | int (n : Int) : Ordered (.int n)
  | str (s : String) : Ordered (.str s)
  | arr {items : List Json} (each : ∀ j ∈ items, Ordered j) : Ordered (.arr items)
  | obj {fields : List (String × Json)} (increasing : (fields.map (·.1)).Pairwise (· < ·))
      (each : ∀ f ∈ fields, Ordered f.2) : Ordered (.obj fields)

mutual
/-- The text of a value with the fields of its objects in the order in which they stand. -/
def spell (indent : Option Nat) (depth : Nat) : Json → List Char
  | .arr items => enclose indent depth '[' ']' (spellItems indent (depth + 1) items)
  | .obj fields => enclose indent depth '{' '}' (spellFields indent (depth + 1) fields)
  | j => write indent depth j

/-- The texts of the elements of an array. -/
def spellItems (indent : Option Nat) (depth : Nat) : List Json → List (List Char)
  | [] => []
  | j :: rest => spell indent depth j :: spellItems indent depth rest

/-- The texts of the fields of an object. -/
def spellFields (indent : Option Nat) (depth : Nat) : List (String × Json) → List (List Char)
  | [] => []
  | (k, j) :: rest =>
    (quote k ++ ':' :: ' ' :: spell indent depth j) :: spellFields indent depth rest
end

theorem spellFields_eq (indent : Option Nat) (depth : Nat) (fields : List (String × Json)) :
    spellFields indent depth fields
      = fields.map fun f => quote f.1 ++ ':' :: ' ' :: spell indent depth f.2 := by
  induction fields with
  | nil => rfl
  | cons f rest ih => rw [spellFields, ih, List.map_cons]

mutual
/-- **Writing a value is spelling its sorted form.** -/
theorem write_eq_spell (indent : Option Nat) (depth : Nat) :
    ∀ j : Json, write indent depth j = spell indent depth j.sorted
  | .null => rfl
  | .bool _ => rfl
  | .int _ => rfl
  | .float _ => rfl
  | .str _ => rfl
  | .arr items => by rw [write, sorted, spell, writeItems_eq_spellItems]
  | .obj fields => by
    rw [write, sorted, spell, writeFields_eq_spell, sortFields_map_snd, spellFields_eq,
      List.map_map]
    rfl

theorem writeItems_eq_spellItems (indent : Option Nat) (depth : Nat) :
    ∀ items : List Json, writeItems indent depth items = spellItems indent depth (sortedItems items)
  | [] => rfl
  | j :: rest => by
    rw [writeItems, sortedItems, spellItems, write_eq_spell, writeItems_eq_spellItems]

theorem writeFields_eq_spell (indent : Option Nat) (depth : Nat) :
    ∀ fields : List (String × Json), writeFields indent depth fields
      = (sortedFields fields).map fun f => (f.1, spell indent depth f.2)
  | [] => rfl
  | (k, j) :: rest => by
    rw [writeFields, sortedFields, List.map_cons, write_eq_spell, writeFields_eq_spell]
end

/-- Sorted by key, fields with keys of their own have increasing keys. -/
theorem pairwise_sortFields {α : Type} {fields : List (String × α)}
    (distinct : (fields.map (·.1)).Nodup) :
    (sortFields fields).Pairwise fun a b => a.1 < b.1 := by
  have hle : (sortFields fields).Pairwise fun a b => a.1 ≤ b.1 :=
    pairwise_mergeSort_key (fun f : String × α => f.1) fields
  have hne : ((sortFields fields).map (·.1)).Nodup :=
    (((sortFields_perm fields).map _).nodup_iff).mpr distinct
  refine (hle.and (List.pairwise_map.mp hne)).imp fun {a b} h => ?_
  by_contra hlt
  exact h.2 (String.le_antisymm h.1 (String.not_lt.mp hlt))

/-- The order in which fields came does not matter to their order by key. -/
theorem sortFields_eq_of_perm {α : Type} {fields others : List (String × α)}
    (h : fields.Perm others) (distinct : (fields.map (·.1)).Nodup) :
    sortFields fields = sortFields others := by
  have hothers : (others.map (·.1)).Nodup := ((h.map _).nodup_iff).mp distinct
  have hasymm (a b : String × α) (hab : a.1 < b.1) (hba : b.1 < a.1) : a = b :=
    absurd hba (String.lt_asymm hab)
  refine List.Perm.eq_of_pairwise (fun a b _ _ => hasymm a b) (pairwise_sortFields distinct)
    (pairwise_sortFields hothers) ?_
  exact (sortFields_perm fields).trans (h.trans (sortFields_perm others).symm)

/-- In its sorted form a value has its keys in order. -/
theorem IsPlain.ordered_sorted {j : Json} (h : j.IsPlain) : j.sorted.Ordered := by
  induction h with
  | null => exact .null
  | bool b => exact .bool b
  | int _ => exact .int _
  | str s => exact .str s
  | arr _ ih =>
    rw [sorted_arr]
    exact .arr (List.forall_mem_map.mpr ih)
  | @obj fields distinct _ ih =>
    rw [sorted_obj]
    refine .obj ?_ ?_
    · rw [keys_map_snd]
      exact List.pairwise_map.mpr (pairwise_sortFields distinct)
    · exact List.forall_mem_map.mpr fun f hf => ih f ((sortFields_perm fields).mem_iff.mp hf)

end Json

open Json

namespace Datum

/-! ## Data -/

/-- The elements of a list or a tuple. -/
def items? : Datum → Option (List Datum)
  | list items => some items
  | tuple items => some items
  | _ => none

/-- Data without fractions, whose integers are not longer than what is converted and in whose
maps no two keys have one text. -/
inductive IsPlain : Datum → Prop where
  | null : IsPlain .null
  | bool (b : Bool) : IsPlain (.bool b)
  | int {n : Int} (limit : (naturalDigits n.natAbs).length ≤ Reading.digitLimit) :
      IsPlain (.int n)
  | text (s : String) : IsPlain (.text s)
  | severity (s : Severity) : IsPlain (.severity s)
  | variant (v : Variant) : IsPlain (.variant v)
  | status (s : ExitStatus) : IsPlain (.status s)
  | finding {f : Finding} (limit : (naturalDigits f.line.natAbs).length ≤ Reading.digitLimit) :
      IsPlain (.finding f)
  | diagnostic {d : Diagnostic}
      (limit : (naturalDigits d.line.natAbs).length ≤ Reading.digitLimit) :
      IsPlain (.diagnostic d)
  | report {r : Report} (limit : r.IsConvertible) : IsPlain (.report r)
  | sequence {d : Datum} {items : List Datum} (elements : d.items? = some items)
      (each : ∀ e ∈ items, IsPlain e) : IsPlain d
  | map {entries : List (Datum × Datum)} (distinct : (entries.map (·.1.display)).Nodup)
      (keys : ∀ e ∈ entries, IsPlain e.1) (each : ∀ e ∈ entries, IsPlain e.2) :
      IsPlain (.map entries)

/-- Data that differ in the order of the entries of maps and in lists against tuples at most,
at any depth. -/
inductive Alike : Datum → Datum → Prop where
  | refl (d : Datum) : Alike d d
  | sequence {d e : Datum} {items others : List Datum} (left : d.items? = some items)
      (right : e.items? = some others) (each : List.Forall₂ Alike items others) : Alike d e
  | map {entries reordered others : List (Datum × Datum)} (order : entries.Perm reordered)
      (keys : reordered.map (·.1) = others.map (·.1))
      (values : List.Forall₂ Alike (reordered.map (·.2)) (others.map (·.2))) :
      Alike (.map entries) (.map others)

/-- A JSON value says what the data are: grades, variants and statuses by their values,
findings, diagnostics and reports by their objects, elements in their order, and under the text
of each key the value that the map has there. -/
inductive Shows : Datum → Json → Prop where
  | null : Shows .null .null
  | bool (b : Bool) : Shows (.bool b) (.bool b)
  | int (n : Int) : Shows (.int n) (.int n)
  | text (s : String) : Shows (.text s) (.str s)
  | severity (s : Severity) : Shows (.severity s) (.str s.text)
  | variant (v : Variant) : Shows (.variant v) (.str v.text)
  | status (s : ExitStatus) : Shows (.status s) (.int s.code)
  | finding {f : Finding} {j : Json} (same : f.toJson.Same j) : Shows (.finding f) j
  | diagnostic {d : Diagnostic} {j : Json} (same : d.toJson.Same j) : Shows (.diagnostic d) j
  | report {r : Report} {j : Json} (same : r.toJson.Same j) : Shows (.report r) j
  | sequence {d : Datum} {items : List Datum} {js : List Json} (elements : d.items? = some items)
      (each : List.Forall₂ Shows items js) : Shows d (.arr js)
  | map {entries : List (Datum × Datum)} {fields : List (String × Json)}
      (keys : (entries.map (·.1.display)).Perm (fields.map (·.1)))
      (each : ∀ e ∈ entries, ∀ j, field? fields e.1.display = some j → Shows e.2 j) :
      Shows (.map entries) (.obj fields)

/-! ## Data as JSON -/

theorem toJson_of_items? {d : Datum} {items : List Datum} (h : d.items? = some items) :
    d.toJson = .arr (items.map toJson) := by
  cases d with
  | list others =>
    obtain rfl := Option.some.inj h
    rw [toJson, itemsJson_eq]
  | tuple others =>
    obtain rfl := Option.some.inj h
    rw [toJson, itemsJson_eq]
  | _ => cases h

/-- The sorted form of a map: one field for each entry, in the order of the texts of keys. -/
theorem sorted_toJson_map {entries : List (Datum × Datum)}
    (distinct : (entries.map (·.1.display)).Nodup) :
    (Datum.map entries).toJson.sorted
      = .obj (sortFields (entries.map fun e => (e.1.display, e.2.toJson.sorted))) := by
  rw [toJson_map distinct, sorted, sortedFields_eq, List.map_map]
  rfl

theorem keys_map_display (g : Datum → Json) (entries : List (Datum × Datum)) :
    (entries.map fun e => (e.1.display, g e.2)).map (·.1) = entries.map (·.1.display) := by
  rw [List.map_map]
  rfl

theorem IsPlain.toJson {d : Datum} (h : d.IsPlain) : d.toJson.IsPlain := by
  induction h with
  | null => exact .null
  | bool b => exact .bool b
  | int limit => exact .int limit
  | text s => exact .str s
  | severity s => exact .str s.text
  | variant v => exact .str v.text
  | status s =>
    refine .int ?_
    cases s <;> decide
  | finding limit => exact Finding.isPlain_toJson limit
  | diagnostic limit => exact Diagnostic.isPlain_toJson limit
  | report limit => exact Report.isPlain_toJson limit
  | sequence elements _ ih =>
    rw [toJson_of_items? elements]
    exact .arr (List.forall_mem_map.mpr ih)
  | map distinct _ _ _ ih =>
    rw [toJson_map distinct]
    refine .obj ?_ (List.forall_mem_map.mpr ih)
    rwa [keys_map_display]

/-- Lists whose elements agree in a property, one by one, agree in the list of it. -/
theorem map_eq_of_forall₂ {items others : List Datum} {g : Datum → Json}
    (each : List.Forall₂ Alike items others)
    (h : ∀ d ∈ items, ∀ e, d.Alike e → g e = g d) : others.map g = items.map g := by
  induction each with
  | nil => rfl
  | cons halike _ ih =>
    obtain ⟨hd, hrest⟩ := List.forall_mem_cons.mp h
    rw [List.map_cons, List.map_cons, hd _ halike, ih hrest]

/-- **Data that are alike come to one value.** -/
theorem IsPlain.sorted_toJson {d : Datum} (h : d.IsPlain) {e : Datum} (halike : d.Alike e) :
    e.toJson.sorted = d.toJson.sorted := by
  -- The induction is on the data; the likeness of the parts is taken apart beside it.
  induction h generalizing e with
  | @sequence d items elements _ ih =>
    cases halike with
    | refl => rfl
    | @sequence _ _ _ others left right each =>
      obtain rfl := Option.some.inj (elements.symm.trans left)
      rw [toJson_of_items? elements, toJson_of_items? right, sorted_arr, sorted_arr,
        List.map_map, List.map_map]
      exact congrArg Json.arr (map_eq_of_forall₂ each fun d hd e he => ih d hd he)
    | map => cases elements
  | @map entries distinct _ _ _ ih =>
    cases halike with
    | refl => rfl
    | sequence left => cases left
    | @map _ reordered others order keys values =>
      -- Reordered entries have reordered fields; sorting by key makes up for that.
      have hkeys : (reordered.map (·.1.display)) = others.map (·.1.display) := by
        have hdisplay := congrArg (List.map display) keys
        rwa [List.map_map, List.map_map] at hdisplay
      have hdistinct : (others.map (·.1.display)).Nodup :=
        hkeys ▸ ((order.map _).nodup_iff).mp distinct
      have hfields : (others.map fun e => (e.1.display, e.2.toJson.sorted))
          = reordered.map fun e => (e.1.display, e.2.toJson.sorted) := by
        have hvalues := map_eq_of_forall₂ (g := fun d => d.toJson.sorted) values fun d hd e he => by
          obtain ⟨entry, hentry, rfl⟩ := List.mem_map.mp hd
          exact ih entry (order.mem_iff.mpr hentry) he
        rw [← List.zip_map', ← List.zip_map', hkeys]
        rw [List.map_map, List.map_map] at hvalues
        exact congrArg _ hvalues
      rw [sorted_toJson_map hdistinct, sorted_toJson_map distinct, hfields]
      refine congrArg Json.obj (sortFields_eq_of_perm (order.map _) ?_).symm
      rwa [keys_map_display fun d => d.toJson.sorted]
  | _ =>
    cases halike with
    | refl => rfl
    | sequence left => cases left

/-- The value that data come to shows them. -/
theorem IsPlain.shows {d : Datum} (h : d.IsPlain) : d.Shows d.toJson.sorted := by
  induction h with
  | null => exact .null
  | bool b => exact .bool b
  | int _ => exact .int _
  | text s => exact .text s
  | severity s => exact .severity s
  | variant v => exact .variant v
  | status s => exact .status s
  | finding limit => exact .finding (Finding.isPlain_toJson limit).same_sorted
  | diagnostic limit => exact .diagnostic (Diagnostic.isPlain_toJson limit).same_sorted
  | report limit => exact .report (Report.isPlain_toJson limit).same_sorted
  | sequence elements _ ih =>
    rw [toJson_of_items? elements, sorted_arr, List.map_map]
    exact .sequence elements (List.forall₂_map_right_iff.mpr (List.forall₂_same.mpr ih))
  | @map entries distinct _ _ _ ih =>
    have hkeys := keys_map_display (fun d => d.toJson.sorted) entries
    have hperm := sortFields_perm (entries.map fun e => (e.1.display, e.2.toJson.sorted))
    have hfields : ((entries.map fun e => (e.1.display, e.2.toJson.sorted)).map (·.1)).Nodup :=
      hkeys ▸ distinct
    rw [sorted_toJson_map distinct]
    refine .map ?_ fun e he j hj => ?_
    · rw [← hkeys]
      exact (hperm.map _).symm
    · -- A key names one field, so what is found under it is the value of this entry.
      have hvalue := (field?_eq_some_iff hfields).mpr (List.mem_map_of_mem he)
      rw [← field?_perm hperm.symm hfields, hvalue] at hj
      exact Option.some.inj hj ▸ ih e he

/-- **Canonical text.** Take data without fractions, in whose maps no two keys have one text.
Data that differ from them in the order of entries and in lists against tuples at most have the
same text, with any indentation or none. The text spells, and is read as, one value that shows
the data and whose objects have their keys in increasing order. Without an indentation, its
only line feed is its last character. -/
theorem canonical_text {d : Datum} (h : d.IsPlain) :
    (∀ e, d.Alike e → ∀ indent, e.canonical indent = d.canonical indent)
      ∧ (∃ j : Json, d.Shows j ∧ j.Ordered ∧ ∀ indent,
          (d.canonical indent).toList = j.spell indent 0 ++ ['\n']
            ∧ Json.parse (d.canonical indent).toList = .ok j)
      ∧ ∃ line, (d.canonical none).toList = line ++ ['\n'] ∧ '\n' ∉ line := by
  have htext (e : Datum) (indent : Option Nat) :
      (e.canonical indent).toList = e.toJson.sorted.spell indent 0 ++ ['\n'] := by
    rw [canonical, render, String.toList_ofList, write_eq_spell]
  refine ⟨fun e he indent => ?_, ⟨d.toJson.sorted, h.shows, h.toJson.ordered_sorted, ?_⟩, ?_⟩
  · rw [← String.toList_inj, htext, htext, h.sorted_toJson he]
  · exact fun indent => ⟨htext d indent, h.toJson.parse_render indent⟩
  · refine ⟨write none 0 d.toJson, String.toList_ofList, ?_⟩
    exact h.toJson.control_not_mem_write (by decide) (fun _ => List.not_mem_nil) 0

/-- A map with keys of different kinds, a tuple and a map in it. -/
def nestedData : Datum := .map
  [(.text "b", .tuple [.int 1, .status .violation]),
   (.int 2, .map [(.null, .text "line\n"), (.text "a", .bool true)])]

/-- The same with the entries the other way round, and a list for the tuple. -/
def reorderedData : Datum := .map
  [(.int 2, .map [(.text "a", .bool true), (.null, .text "line\n")]),
   (.text "b", .list [.int 1, .status .violation])]

theorem canonical_text_nestedData :
    nestedData.IsPlain ∧ nestedData.Alike reorderedData
      ∧ (∀ indent, reorderedData.canonical indent = nestedData.canonical indent)
      ∧ ∃ line, (nestedData.canonical none).toList = line ++ ['\n'] ∧ '\n' ∉ line := by
  have hplain : nestedData.IsPlain := by
    refine .map (by decide) ?_ ?_
    · simp only [List.forall_mem_cons]
      exact ⟨.text _, .int (by decide), List.forall_mem_nil _⟩
    · simp only [List.forall_mem_cons]
      refine ⟨.sequence rfl ?_, .map (by decide) ?_ ?_, List.forall_mem_nil _⟩
      all_goals simp only [List.forall_mem_cons]
      · exact ⟨.int (by decide), .status _, List.forall_mem_nil _⟩
      · exact ⟨.null, .text _, List.forall_mem_nil _⟩
      · exact ⟨.text _, .bool _, List.forall_mem_nil _⟩
  have halike : nestedData.Alike reorderedData := by
    refine .map (.swap _ _ _) rfl (.cons ?_ (.cons ?_ .nil))
    · exact .map (.swap _ _ _) rfl (.cons (.refl _) (.cons (.refl _) .nil))
    · exact .sequence rfl rfl (.cons (.refl _) (.cons (.refl _) .nil))
  obtain ⟨hsame, -, hline⟩ := canonical_text hplain
  exact ⟨hplain, halike, hsame reorderedData halike, hline⟩

end Datum

end CodeSmell
