/-
The form of a written value.

An array or an object is written as a bracket, its elements with a separator between
them, and a bracket. What the indentation adds are blanks, behind the opening bracket,
behind each comma and in front of the closing one; so it can be described once for all
indentations, by what stands between two elements and what stands around them.

Main statement: whatever its texts hold, a written value has no control character but
those that begin its lines. So it has no carriage return: a file is read with every
line end as a line feed, and this is why that changes nothing in a file that a value
was written to. And without an indentation it has no line feed.
-/
import CodeSmell.Proofs.Json.Sorted
import CodeSmell.Proofs.Json.Token
import CodeSmell.Proofs.Text.Encoding

set_option autoImplicit false

namespace CodeSmell.Json

open Reader

/-! ## Blanks -/

/-- Nothing but white space. -/
def Blank (cs : List Char) : Prop := ∀ c ∈ cs, isSpace c = true

theorem lineStart_blank (indent : Option Nat) (depth : Nat) : Blank (lineStart indent depth) := by
  intro c hc
  cases indent with
  | none => cases hc
  | some width =>
    rcases List.mem_cons.mp hc with rfl | hc
    · rfl
    · rw [List.eq_of_mem_replicate hc]
      rfl

/-- Between two elements stand a comma and blanks. -/
theorem exists_separator_eq (indent : Option Nat) (depth : Nat) :
    ∃ gap, separator indent depth = ',' :: gap ∧ Blank gap := by
  cases indent with
  | none => exact ⟨[' '], rfl, List.forall_mem_singleton.mpr rfl⟩
  | some width => exact ⟨lineStart (some width) depth, rfl, lineStart_blank (some width) depth⟩

theorem separator_length_pos (indent : Option Nat) (level : Nat) :
    0 < (separator indent level).length := by
  obtain ⟨gap, hgap, -⟩ := exists_separator_eq indent level
  rw [hgap]
  exact Nat.zero_lt_succ gap.length

/-! ## Arrays and objects -/

/-- The text of a field. -/
def fieldText (indent : Option Nat) (level : Nat) (f : String × Json) : List Char :=
  quote f.1 ++ ':' :: ' ' :: write indent level f.2

theorem fieldText_append (indent : Option Nat) (level : Nat) (f : String × Json)
    (rest : List Char) : fieldText indent level f ++ rest
      = quote f.1 ++ ':' :: ' ' :: (write indent level f.2 ++ rest) :=
  List.append_assoc (quote f.1) (':' :: ' ' :: write indent level f.2) rest

theorem write_length_lt (indent : Option Nat) (level : Nat) (f : String × Json) :
    (write indent level f.2).length < (fieldText indent level f).length := by
  rw [fieldText, List.length_append, List.length_cons, List.length_cons]
  omega

theorem writeItems_eq (indent : Option Nat) (level : Nat) (js : List Json) :
    writeItems indent level js = js.map (write indent level) := by
  induction js with
  | nil => rfl
  | cons j rest ih => rw [writeItems, ih, List.map_cons]

theorem writeFields_eq (indent : Option Nat) (level : Nat) (fs : List (String × Json)) :
    writeFields indent level fs = fs.map fun f => (f.1, write indent level f.2) := by
  induction fs with
  | nil => rfl
  | cons f rest ih => rw [writeFields, ih, List.map_cons]

theorem write_arr (indent : Option Nat) (level : Nat) (js : List Json) :
    write indent level (.arr js)
      = enclose indent level '[' ']' (js.map (write indent (level + 1))) := by
  rw [write, writeItems_eq]

theorem write_obj (indent : Option Nat) (level : Nat) (fs : List (String × Json)) :
    write indent level (.obj fs)
      = enclose indent level '{' '}' ((sortFields fs).map (fieldText indent (level + 1))) := by
  rw [write, writeFields_eq, sortFields_map_snd, List.map_map]
  rfl

/-- Elements that there are stand behind blanks and in front of blanks. -/
theorem enclose_eq (indent : Option Nat) (level : Nat) (opening closing : Char)
    {elements : List (List Char)} (ne : elements ≠ []) :
    enclose indent level opening closing elements
      = opening :: (lineStart indent (level + 1)
        ++ ((separator indent (level + 1)).intercalate elements
          ++ (lineStart indent level ++ [closing]))) := by
  have hne : ¬elements.isEmpty = true := mt List.isEmpty_iff.mp ne
  rw [enclose, if_neg hne, List.append_assoc, List.cons_append, List.cons_append,
    List.append_assoc]

/-! ## Control characters -/

theorem not_mem_intercalate {α : Type} {a : α} {sep : List α} {elements : List (List α)}
    (hsep : a ∉ sep) (h : ∀ l ∈ elements, a ∉ l) : a ∉ sep.intercalate elements := by
  induction elements with
  | nil => exact List.not_mem_nil
  | cons l rest ih =>
    obtain ⟨hl, hrest⟩ := List.forall_mem_cons.mp h
    cases rest with
    | nil =>
      rw [List.intercalate_singleton]
      exact hl
    | cons k ks =>
      rw [List.intercalate_cons_cons, List.mem_append, List.mem_append]
      exact not_or.mpr ⟨not_or.mpr ⟨hl, hsep⟩, ih hrest⟩

theorem return_not_mem_lineStart (indent : Option Nat) (level : Nat) :
    '\r' ∉ lineStart indent level := by
  cases indent with
  | none => exact List.not_mem_nil
  | some width =>
    intro h
    rcases List.mem_cons.mp h with h | h
    · exact absurd h (by decide)
    · exact absurd (List.eq_of_mem_replicate h) (by decide)

/-- The character is no control character. -/
def prints (c : Char) : Bool := decide (0x20 ≤ c.toNat)

theorem prints_of_mem_escapeChar {c b : Char} (hb : b ∈ escapeChar c) : prints b = true := by
  rcases escapeChar_cases c with ⟨l, hc, -, hletter⟩ | ⟨hc, hcontrol⟩ | ⟨hc, -, -, hcontrol⟩
  · rw [hc] at hb
    rcases List.mem_cons.mp hb with rfl | hb
    · decide
    · obtain rfl := List.mem_singleton.mp hb
      unfold letterEscape? at hletter
      split at hletter
      all_goals first | decide | cases hletter
  · have hdigits : ∀ n < 0x20, ('\\' :: 'u' :: Text.Quoted.hex 4 n).all prints = true := by decide
    rw [hc] at hb
    exact List.all_eq_true.mp (hdigits c.toNat hcontrol) b hb
  · rw [hc] at hb
    obtain rfl := List.mem_singleton.mp hb
    exact decide_eq_true (Nat.le_of_not_lt hcontrol)

section

variable {a : Char} (hcontrol : prints a = false)

include hcontrol

theorem control_not_mem {cs : List Char} (h : cs.all prints = true) : a ∉ cs := by
  intro ha
  have hprints := List.all_eq_true.mp h a ha
  rw [hcontrol] at hprints
  cases hprints

theorem control_not_mem_quote (s : String) : a ∉ quote s := by
  apply control_not_mem hcontrol
  rw [List.all_eq_true]
  intro b hb
  rw [quote, List.mem_append, List.mem_cons, List.mem_flatMap, List.mem_singleton] at hb
  rcases hb with (rfl | ⟨c, -, hb⟩) | rfl
  · decide
  · exact prints_of_mem_escapeChar hb
  · decide

theorem control_not_mem_integerText (n : Int) : a ∉ (integerText n).toList := by
  apply control_not_mem hcontrol
  rw [List.all_eq_true]
  intro b hb
  rcases eq_or_isDigit_of_mem_integerText hb with rfl | hdigit
  · decide
  · have hcode := Char.isDigit_iff_toNat.mp hdigit
    exact decide_eq_true (Nat.le_trans (by decide) hcode.1)

variable {indent : Option Nat} (hstart : ∀ level, a ∉ lineStart indent level)

include hstart

theorem control_not_mem_enclose {level : Nat} {opening closing : Char}
    {elements : List (List Char)} (hbrackets : [opening, closing].all prints = true)
    (h : ∀ l ∈ elements, a ∉ l) : a ∉ enclose indent level opening closing elements := by
  have hpair := control_not_mem hcontrol hbrackets
  by_cases ne : elements = []
  · subst ne
    exact hpair
  · have hsep : a ∉ separator indent (level + 1) := by
      cases indent with
      | none =>
        have hcomma : a ∉ [',', ' '] := control_not_mem hcontrol (by decide)
        exact hcomma
      | some width =>
        have hcomma : a ∉ [','] := control_not_mem hcontrol (by decide)
        exact List.not_mem_cons_of_ne_of_not_mem (List.ne_of_not_mem_cons hcomma)
          (hstart (level + 1))
    rw [List.mem_cons, List.mem_singleton, not_or] at hpair
    rw [enclose_eq indent level opening closing ne, List.mem_cons, List.mem_append,
      List.mem_append, List.mem_append, List.mem_singleton]
    rintro (h' | h' | h' | h' | h')
    · exact hpair.1 h'
    · exact hstart (level + 1) h'
    · exact not_mem_intercalate hsep h h'
    · exact hstart level h'
    · exact hpair.2 h'

/-- The only control characters in a written value are those that begin its lines, since a
string has them escaped. -/
theorem IsPlain.control_not_mem_write {j : Json} (h : j.IsPlain) (level : Nat) :
    a ∉ write indent level j := by
  induction h generalizing level with
  | null =>
    have hword : "null".toList.all prints = true := by decide
    exact control_not_mem hcontrol hword
  | bool b =>
    have hword : ∀ b : Bool, (if b then "true" else "false").toList.all prints = true := by decide
    exact control_not_mem hcontrol (hword b)
  | int _ => exact control_not_mem_integerText hcontrol _
  | str s => exact control_not_mem_quote hcontrol s
  | arr _ ih =>
    rw [write_arr]
    refine control_not_mem_enclose hcontrol hstart (by decide) ?_
    exact List.forall_mem_map.mpr fun j hj => ih j hj (level + 1)
  | @obj fields _ _ ih =>
    rw [write_obj]
    refine control_not_mem_enclose hcontrol hstart (by decide) ?_
    intro l hl h
    obtain ⟨f, hf, rfl⟩ := List.mem_map.mp hl
    have hcolon : a ∉ [':', ' '] := control_not_mem hcontrol (by decide)
    have hsplit : fieldText indent (level + 1) f
        = quote f.1 ++ ([':', ' '] ++ write indent (level + 1) f.2) := rfl
    rw [hsplit, List.mem_append, List.mem_append] at h
    rcases h with h | h | h
    · exact control_not_mem_quote hcontrol f.1 h
    · exact hcolon h
    · exact ih f ((sortFields_perm fields).mem_iff.mp hf) (level + 1) h

end

/-- The text of a document is read back from its bytes. -/
theorem IsPlain.text_encode_render {j : Json} (h : j.IsPlain) (indent : Option Nat) :
    Encoding.text "utf-8" (Text.Utf8.encode (render indent j)) = .ok (render indent j) := by
  apply Encoding.text_encode
  rw [render, String.toList_ofList, List.mem_append]
  exact not_or.mpr
    ⟨h.control_not_mem_write (by decide) (return_not_mem_lineStart indent) 0, by decide⟩

end CodeSmell.Json
