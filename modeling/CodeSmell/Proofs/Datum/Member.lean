/-
Members of enumerations.

Where a member of an enumeration is a value, its value is written: the text of a grade or of a
variant, the number of a status. Where it is a key, what is written is the text that displays it,
and for a grade or a variant this is its name and not its value. So the text is that of the data
with values for members and with the texts that display them for keys (`toJson_withKeys`).

That is the text of the data by their values throughout as long as no key, at any depth, is a
grade or a variant; and with any such key it is another text. To see this one counts the strings
of the text that are values of grades or of variants. By their values the data have one more of
them for each such key, since no name is such a value. Nor can anything make up for it: where
the name of a key is also the text of another, one entry takes the place of the other, and that
loses strings and adds none (`countP_entriesJson_le`). The text tells its strings, so two texts
with different counts are different.

Main statement: `members_written_by_value`.
-/
import CodeSmell.Datum.Entries
import CodeSmell.Proofs.Datum.Canonical
import CodeSmell.Proofs.Json.Quotes

set_option autoImplicit false

namespace CodeSmell

/-! ## Entries of maps -/

namespace Json

/-- Putting a field adds its strings at most, and takes away those of the field whose place it
takes. -/
theorem countP_put_le (p : String → Bool) (key : String) (value : Json)
    (fields : List (String × Json)) :
    (obj (put key value fields)).strings.countP p
      ≤ (obj fields).strings.countP p + (key :: value.strings).countP p := by
  simp only [strings_obj]
  induction fields with
  | nil => simp [put]
  | cons f rest ih =>
    obtain ⟨k, j⟩ := f
    by_cases h : k = key
    · subst h
      simp only [put, if_true, List.flatMap_cons, List.countP_append, List.countP_cons]
      omega
    · simp only [put, if_neg h, List.flatMap_cons, List.countP_append] at ih ⊢
      omega

end Json

open Json

namespace Datum

/-- Entries are put one after the other, each under the text that displays its key. -/
theorem entriesJson_eq (fields : List (String × Json)) (entries : List (Datum × Datum)) :
    entriesJson fields entries
      = (entries.map fun e => (e.1.display, e.2.toJson)).foldl
          (fun fields f => put f.1 f.2 fields) fields := by
  induction entries generalizing fields with
  | nil => rfl
  | cons e rest ih => rw [entriesJson, ih, List.map_cons, List.foldl_cons]

/-- A map has no more strings of a kind than its entries. -/
theorem countP_entriesJson_le (p : String → Bool) (fields : List (String × Json))
    (entries : List (Datum × Datum)) :
    (obj (entriesJson fields entries)).strings.countP p
      ≤ (obj fields).strings.countP p
        + (entries.flatMap fun e => e.1.display :: e.2.toJson.strings).countP p := by
  induction entries generalizing fields with
  | nil => simp [entriesJson]
  | cons e rest ih =>
    obtain ⟨k, v⟩ := e
    have hrest := ih (put k.display v.toJson fields)
    have hput := countP_put_le p k.display v.toJson fields
    rw [entriesJson, List.flatMap_cons, List.countP_append]
    dsimp only
    omega

/-- What holds of the counts of parts holds of the counts of the whole. -/
theorem countP_flatMap_add_le {α : Type} {parts : List α} {p : String → Bool}
    {q : Datum → Bool} {f f' : α → List String} {keys : α → List Datum}
    (each : ∀ a ∈ parts, (f a).countP p + (keys a).countP q ≤ (f' a).countP p) :
    (parts.flatMap f).countP p + (parts.flatMap keys).countP q ≤ (parts.flatMap f').countP p := by
  induction parts with
  | nil => simp
  | cons a rest ih =>
    obtain ⟨ha, hrest⟩ := List.forall_mem_cons.mp each
    have hsum := ih hrest
    simp only [List.flatMap_cons, List.countP_append]
    omega

/-! ## Data by values -/

/-- A member of an enumeration as its value, anything else as it is. -/
def memberValue : Datum → Datum
  | severity s => text s.text
  | variant v => text v.text
  | status s => int s.code
  | d => d

mutual
/-- The data with the value of each member of an enumeration in its place, and with `g k` in
place of each key `k`. -/
def withKeys (g : Datum → Datum) : Datum → Datum
  | list items => list (itemsWithKeys g items)
  | tuple items => tuple (itemsWithKeys g items)
  | map entries => map (entriesWithKeys g entries)
  | d => d.memberValue

/-- The elements of a list or tuple. -/
def itemsWithKeys (g : Datum → Datum) : List Datum → List Datum
  | [] => []
  | d :: rest => withKeys g d :: itemsWithKeys g rest

/-- The entries of a map. -/
def entriesWithKeys (g : Datum → Datum) : List (Datum × Datum) → List (Datum × Datum)
  | [] => []
  | (k, v) :: rest => (g k, withKeys g v) :: entriesWithKeys g rest
end

/-- The data with the value of each member of an enumeration in its place, also where the member
is a key. -/
def byValue (d : Datum) : Datum := d.withKeys memberValue

mutual
/-- The keys of the maps in the data, at any depth. -/
def keys : Datum → List Datum
  | list items => keysOfItems items
  | tuple items => keysOfItems items
  | map entries => keysOfEntries entries
  | _ => []

/-- The keys in the elements of a list or tuple. -/
def keysOfItems : List Datum → List Datum
  | [] => []
  | d :: rest => keys d ++ keysOfItems rest

/-- The keys of a map and those in its values. -/
def keysOfEntries : List (Datum × Datum) → List Datum
  | [] => []
  | (k, v) :: rest => k :: keys v ++ keysOfEntries rest
end

variable {g : Datum → Datum}

theorem items?_withKeys {d : Datum} {items : List Datum} (h : d.items? = some items) :
    (d.withKeys g).items? = some (items.map (withKeys g)) := by
  have hitems (ds : List Datum) : itemsWithKeys g ds = ds.map (withKeys g) := by
    induction ds with
    | nil => rfl
    | cons d rest ih => rw [itemsWithKeys, ih, List.map_cons]
  cases d with
  | list others =>
    obtain rfl := Option.some.inj h
    rw [withKeys, hitems]
    rfl
  | tuple others =>
    obtain rfl := Option.some.inj h
    rw [withKeys, hitems]
    rfl
  | _ => cases h

theorem withKeys_map (entries : List (Datum × Datum)) :
    (Datum.map entries).withKeys g = .map (entries.map fun e => (g e.1, e.2.withKeys g)) := by
  rw [withKeys]
  congr 1
  induction entries with
  | nil => rfl
  | cons e rest ih => rw [entriesWithKeys, ih, List.map_cons]

theorem byValue_map (entries : List (Datum × Datum)) :
    (Datum.map entries).byValue = .map (entries.map fun e => (e.1.memberValue, e.2.byValue)) :=
  withKeys_map entries

theorem keys_of_items? {d : Datum} {items : List Datum} (h : d.items? = some items) :
    d.keys = items.flatMap keys := by
  have hitems (ds : List Datum) : keysOfItems ds = ds.flatMap keys := by
    induction ds with
    | nil => rfl
    | cons d rest ih => rw [keysOfItems, ih, List.flatMap_cons]
  cases d with
  | list others =>
    obtain rfl := Option.some.inj h
    rw [keys, hitems]
  | tuple others =>
    obtain rfl := Option.some.inj h
    rw [keys, hitems]
  | _ => cases h

theorem keys_map (entries : List (Datum × Datum)) :
    (Datum.map entries).keys = entries.flatMap fun e => e.1 :: e.2.keys := by
  rw [keys]
  induction entries with
  | nil => rfl
  | cons e rest ih => rw [keysOfEntries, ih, List.flatMap_cons]

/-! ## Keys that stand for texts -/

/-- The text that a key stands for: a text for itself, a member of an enumeration for its
value. -/
def denoted? : Datum → Option String
  | status s => some (toString s.code)
  | k => k.keyText?

/-- The key is displayed by a name and not by the text that it stands for. -/
def isNamed : Datum → Bool
  | severity _ => true
  | variant _ => true
  | _ => false

/-- The data hold no others. -/
def isSingle : Datum → Bool
  | list _ => false
  | tuple _ => false
  | map _ => false
  | _ => true

/-- Data in whose maps every key stands for a text, each for one of its own. -/
inductive KeyedByText : Datum → Prop where
  | single {d : Datum} (alone : d.isSingle = true) : KeyedByText d
  | sequence {d : Datum} {items : List Datum} (elements : d.items? = some items)
      (each : ∀ e ∈ items, KeyedByText e) : KeyedByText d
  | map {entries : List (Datum × Datum)} (texts : ∀ e ∈ entries, e.1.denoted?.isSome = true)
      (distinct : (entries.map (·.1.denoted?)).Nodup) (each : ∀ e ∈ entries, KeyedByText e.2) :
      KeyedByText (.map entries)

/-- The text is the value of a grade or of a variant. -/
def isMemberText (s : String) : Bool :=
  (Severity.ofText? s).isSome || (Variant.ofText? s).isSome

/-- A key that has no name is displayed by its value. -/
theorem display_memberValue_of_not_named {k : Datum} (h : k.isNamed = false) :
    k.memberValue.display = k.display := by
  cases k with
  | severity t => cases h
  | variant t => cases h
  | status t => cases t <;> decide
  | _ => rfl

theorem display_memberValue {k : Datum} {s : String} (h : k.denoted? = some s) :
    k.memberValue.display = s := by
  cases k with
  | text t => exact Option.some.inj h
  | severity t => exact Option.some.inj h
  | variant t => exact Option.some.inj h
  | status t =>
    obtain rfl := Option.some.inj h
    exact display_memberValue_of_not_named rfl
  | _ => cases h

/-- By its value a key counts once if it is displayed by a name, for no name is the value of a
member; else it counts as it did. -/
theorem countP_denoted {k : Datum} {s : String} (h : k.denoted? = some s) :
    [s].countP isMemberText = [k.display].countP isMemberText + [k].countP isNamed := by
  cases k with
  | text t =>
    obtain rfl := Option.some.inj h
    rfl
  | severity t =>
    obtain rfl := Option.some.inj h
    cases t <;> decide
  | variant t =>
    obtain rfl := Option.some.inj h
    cases t <;> decide
  | status t =>
    obtain rfl := Option.some.inj h
    rfl
  | _ => cases h

namespace KeyedByText

variable {d : Datum}

/-- Keys that are displayed alike make no difference. -/
theorem toJson_withKeys (h : d.KeyedByText) (hkeys : ∀ k ∈ d.keys, (g k).display = k.display) :
    (d.withKeys g).toJson = d.toJson := by
  induction h with
  | @single d alone =>
    cases d with
    | list items => cases alone
    | tuple items => cases alone
    | map entries => cases alone
    | _ => rfl
  | sequence elements _ ih =>
    rw [keys_of_items? elements] at hkeys
    rw [toJson_of_items? elements, toJson_of_items? (items?_withKeys elements), List.map_map]
    congr 1
    apply List.map_congr_left
    intro e he
    exact ih e he fun k hk => hkeys k (List.mem_flatMap.mpr ⟨e, he, hk⟩)
  | map _ _ _ ih =>
    rw [keys_map] at hkeys
    rw [withKeys_map, toJson, toJson, entriesJson_eq, entriesJson_eq, List.map_map]
    congr 2
    apply List.map_congr_left
    intro e he
    have hkey := hkeys e.1 (List.mem_flatMap.mpr ⟨e, he, List.mem_cons_self⟩)
    have hvalue := ih e he fun k hk =>
      hkeys k (List.mem_flatMap.mpr ⟨e, he, List.mem_cons_of_mem e.1 hk⟩)
    exact Prod.ext hkey hvalue

/-- By their values the keys of a map have texts of their own. -/
theorem nodup_display_memberValue {entries : List (Datum × Datum)}
    (texts : ∀ e ∈ entries, e.1.denoted?.isSome = true)
    (distinct : (entries.map (·.1.denoted?)).Nodup) :
    ((entries.map fun e => (e.1.memberValue, e.2.byValue)).map (·.1.display)).Nodup := by
  have hdenoted : entries.map (·.1.denoted?)
      = (entries.map fun e => e.1.memberValue.display).map some := by
    rw [List.map_map]
    apply List.map_congr_left
    intro e he
    obtain ⟨s, hs⟩ := Option.isSome_iff_exists.mp (texts e he)
    rw [hs, Function.comp_apply, display_memberValue hs]
  rw [hdenoted] at distinct
  rw [List.map_map]
  exact distinct.of_map some

/-- By their values the data have one more value of a member among their strings for each key
that is displayed by a name. -/
theorem countP_strings_le (h : d.KeyedByText) :
    d.toJson.strings.countP isMemberText + d.keys.countP isNamed
      ≤ d.byValue.toJson.strings.countP isMemberText := by
  induction h with
  | @single d alone =>
    cases d with
    | list items => cases alone
    | tuple items => cases alone
    | map entries => cases alone
    | _ => exact Nat.le_refl _
  | sequence elements _ ih =>
    rw [keys_of_items? elements, toJson_of_items? elements, byValue,
      toJson_of_items? (items?_withKeys elements), strings_arr, strings_arr, List.map_map,
      List.flatMap_map, List.flatMap_map]
    exact countP_flatMap_add_le ih
  | @map entries texts distinct _ ih =>
    have hentries : (entries.flatMap fun e => e.1.display :: e.2.toJson.strings).countP isMemberText
          + (entries.flatMap fun e => e.1 :: e.2.keys).countP isNamed
        ≤ (entries.flatMap fun e =>
            e.1.memberValue.display :: e.2.byValue.toJson.strings).countP isMemberText := by
      apply countP_flatMap_add_le
      intro e he
      obtain ⟨s, hs⟩ := Option.isSome_iff_exists.mp (texts e he)
      have hkey := countP_denoted hs
      have hvalue := ih e he
      rw [display_memberValue hs]
      simp only [List.countP_cons, List.countP_nil] at hkey ⊢
      omega
    have hvalues : (Datum.map entries).byValue.toJson.strings
        = entries.flatMap fun e => e.1.memberValue.display :: e.2.byValue.toJson.strings := by
      rw [byValue_map, toJson_map (nodup_display_memberValue texts distinct), strings_obj,
        List.map_map, List.flatMap_map]
      rfl
    -- Here an entry may take the place of another one, which loses strings of the data.
    have hlost := countP_entriesJson_le isMemberText [] entries
    have hnone : (obj []).strings.countP isMemberText = 0 := rfl
    rw [hvalues, keys_map, toJson]
    omega

end KeyedByText

/-- Two data with one text have the same strings. -/
theorem strings_perm_of_canonical_eq {d e : Datum} {indent : Option Nat}
    (h : d.canonical indent = e.canonical indent) : d.toJson.strings.Perm e.toJson.strings := by
  have htext : write indent 0 d.toJson = write indent 0 e.toJson :=
    List.append_cancel_right (String.ofList_injective h)
  have hd := hasStrings_write indent d.toJson 0
  rw [htext] at hd
  exact hd.unique (hasStrings_write indent e.toJson 0)

/-- **Members of enumerations are written by their values, but not as keys.** Take data in whose
maps every key stands for a text, each for one of its own. Their text is that of the data with
values in place of members and, in place of keys, the texts that display them. It is the text of
the data with values in place of members, keys included, exactly if no key at any depth is a
grade or a variant. -/
theorem members_written_by_value {d : Datum} (h : d.KeyedByText) (indent : Option Nat) :
    d.canonical indent = (d.withKeys fun k => .text k.display).canonical indent
      ∧ (d.canonical indent = d.byValue.canonical indent
          ↔ ∀ k ∈ d.keys, k.isNamed = false) := by
  refine ⟨?_, ?_, ?_⟩
  · rw [canonical, canonical, h.toJson_withKeys]
    intro k _
    rfl
  · intro heq k hk
    have hcount := (strings_perm_of_canonical_eq heq).countP_eq isMemberText
    have hle := h.countP_strings_le
    have hnone : d.keys.countP isNamed = 0 := by omega
    exact Bool.eq_false_iff.mpr (List.countP_eq_zero.mp hnone k hk)
  · intro hkeys
    rw [canonical, canonical, byValue, h.toJson_withKeys]
    intro k hk
    exact display_memberValue_of_not_named (hkeys k hk)

/-- Members as values, and a grade as a key. -/
def gradeKeyed : Datum := .tuple
  [.severity .low, .map [(.severity .high, .int 1), (.text "high2", .variant .tsx)]]

theorem members_written_by_value_gradeKeyed :
    gradeKeyed.KeyedByText
      ∧ gradeKeyed.canonical none
        = (Datum.tuple [.text "low", .map
            [(.text "Severity.HIGH", .int 1), (.text "high2", .text "tsx")]]).canonical none
      ∧ gradeKeyed.byValue
        = .tuple [.text "low", .map [(.text "high", .int 1), (.text "high2", .text "tsx")]]
      ∧ gradeKeyed.canonical none ≠ gradeKeyed.byValue.canonical none := by
  have hkeyed : gradeKeyed.KeyedByText := by
    refine .sequence rfl ?_
    simp only [List.forall_mem_cons]
    refine ⟨.single rfl, .map ?_ (by decide) ?_, List.forall_mem_nil _⟩
    all_goals simp only [List.forall_mem_cons]
    · exact ⟨rfl, rfl, List.forall_mem_nil _⟩
    · exact ⟨.single rfl, .single rfl, List.forall_mem_nil _⟩
  obtain ⟨hnames, hvalues⟩ := members_written_by_value hkeyed none
  refine ⟨hkeyed, hnames, rfl, ?_⟩
  intro heq
  have hnone := hvalues.mp heq (.severity .high) List.mem_cons_self
  exact absurd hnone (by decide)

end Datum

end CodeSmell
