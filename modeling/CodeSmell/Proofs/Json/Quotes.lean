/-
The strings in a written value.

A written value has a quote at both ends of each of its strings and nowhere else: inside a string
a quote is escaped, and what is no string, the numerals included, is written without one. So the
strings can be read off the text, from one quote to the next, and whatever else the text holds,
there is one way to do it (`Quotes.unique`). What is read off are the texts and the keys of the
value, at any depth (`hasStrings_write`); their order is not that of the value, since an object is
written with its keys sorted.

So two values with one text have the same strings. This needs no reading of the value, and so it
holds of every value, also of those whose text is not read back: with fractions that are no
numbers, with keys that come twice, with integers of any length.
-/
import CodeSmell.Proofs.Json.Document
import CodeSmell.Proofs.Json.Written
import CodeSmell.Proofs.Number.ReadBack

set_option autoImplicit false

namespace CodeSmell.Json

open Reader

/-! ## Strings of a value -/

mutual
/-- The strings of a value, its texts and its keys, at any depth. -/
def strings : Json → List String
  | .str s => [s]
  | .arr items => stringsOfItems items
  | .obj fields => stringsOfFields fields
  | _ => []

/-- The strings of the elements of an array. -/
def stringsOfItems : List Json → List String
  | [] => []
  | j :: rest => strings j ++ stringsOfItems rest

/-- The strings of the fields of an object. -/
def stringsOfFields : List (String × Json) → List String
  | [] => []
  | (k, j) :: rest => k :: strings j ++ stringsOfFields rest
end

theorem strings_arr (items : List Json) : (Json.arr items).strings = items.flatMap strings := by
  rw [strings]
  induction items with
  | nil => rfl
  | cons j rest ih => rw [stringsOfItems, ih, List.flatMap_cons]

theorem strings_obj (fields : List (String × Json)) :
    (Json.obj fields).strings = fields.flatMap fun f => f.1 :: f.2.strings := by
  rw [strings]
  induction fields with
  | nil => rfl
  | cons f rest ih => rw [stringsOfFields, ih, List.flatMap_cons]

/-! ## Strings of a text -/

/-- The strings between quotes in a text, in their order. -/
inductive Quotes : List Char → List String → Prop where
  | nil : Quotes [] []
  | skip {c : Char} {rest : List Char} {found : List String} (h : c ≠ '"')
      (more : Quotes rest found) : Quotes (c :: rest) found
  | string {rest : List Char} {found : List String} (s : String) (more : Quotes rest found) :
      Quotes (quote s ++ rest) (s :: found)

/-- A written string is known by its text, whatever stands behind it. -/
theorem quote_append_inj {s t : String} {rest after : List Char}
    (h : quote s ++ rest = quote t ++ after) : s = t ∧ rest = after := by
  obtain ⟨body, hbody, hread⟩ := string_quote [] s rest
  obtain ⟨other, hother, hotherRead⟩ := string_quote [] t after
  have hsame : body = other := by
    rw [h, hother] at hbody
    exact (List.tail_eq_of_cons_eq hbody).symm
  rw [hsame, hotherRead] at hread
  simp only [Except.ok.injEq, Prod.mk.injEq] at hread
  exact ⟨Spelling.ofString_inj.mp hread.1.symm, hread.2.symm⟩

theorem quote_append_ne {c : Char} (h : c ≠ '"') (s : String) (rest more : List Char) :
    quote s ++ rest ≠ c :: more := by
  obtain ⟨body, hbody, -⟩ := string_quote [] s rest
  rw [hbody]
  intro heq
  exact h (List.head_eq_of_cons_eq heq).symm

/-- There is one way to read strings off a text. -/
theorem Quotes.unique {cs : List Char} {found others : List String} (h : Quotes cs found)
    (h' : Quotes cs others) : found = others := by
  induction h generalizing others with
  | nil =>
    generalize hcs : ([] : List Char) = cs at h'
    cases h' with
    | nil => rfl
    | skip => cases hcs
    | string s more => cases hcs
  | @skip c rest found hc _ ih =>
    generalize hcs : c :: rest = cs at h'
    cases h' with
    | nil => cases hcs
    | skip _ more =>
      obtain ⟨rfl, rfl⟩ := List.cons.inj hcs
      exact ih more
    | string s more => exact absurd hcs.symm (quote_append_ne hc s _ rest)
  | @string rest found s _ ih =>
    generalize hcs : quote s ++ rest = cs at h'
    cases h' with
    | nil => cases hcs
    | skip hc more => exact absurd hcs (quote_append_ne hc s rest _)
    | string t more =>
      obtain ⟨rfl, rfl⟩ := quote_append_inj hcs
      rw [ih more]

theorem Quotes.append {cs ds : List Char} {found others : List String} (h : Quotes cs found)
    (h' : Quotes ds others) : Quotes (cs ++ ds) (found ++ others) := by
  induction h with
  | nil => exact h'
  | skip hc _ ih => exact .skip hc ih
  | string s _ ih =>
    rw [List.append_assoc]
    exact .string s ih

/-- The strings between quotes in the text are these, in whatever order. -/
def HasStrings (text : List Char) (strings : List String) : Prop :=
  ∃ found, Quotes text found ∧ found.Perm strings

theorem HasStrings.unique {text : List Char} {strings others : List String}
    (h : HasStrings text strings) (h' : HasStrings text others) : strings.Perm others := by
  obtain ⟨found, hfound, hperm⟩ := h
  obtain ⟨found', hfound', hperm'⟩ := h'
  obtain rfl := hfound.unique hfound'
  exact hperm.symm.trans hperm'

theorem HasStrings.append {text more : List Char} {strings others : List String}
    (h : HasStrings text strings) (h' : HasStrings more others) :
    HasStrings (text ++ more) (strings ++ others) := by
  obtain ⟨found, hfound, hperm⟩ := h
  obtain ⟨found', hfound', hperm'⟩ := h'
  exact ⟨found ++ found', hfound.append hfound', hperm.append hperm'⟩

theorem hasStrings_quote (s : String) : HasStrings (quote s) [s] := by
  have h : Quotes (quote s ++ []) [s] := .string s .nil
  rw [List.append_nil] at h
  exact ⟨[s], h, .refl _⟩

theorem hasStrings_nil {text : List Char} (h : '"' ∉ text) : HasStrings text [] := by
  refine ⟨[], ?_, .refl _⟩
  induction text with
  | nil => exact .nil
  | cons c rest ih =>
    obtain ⟨hc, hrest⟩ := not_or.mp (mt List.mem_cons.mpr h)
    exact .skip (Ne.symm hc) (ih hrest)

/-! ## Written values -/

theorem quote_not_mem_integerText (n : Int) : '"' ∉ (integerText n).toList := by
  intro h
  rcases eq_or_isDigit_of_mem_integerText h with hsign | hdigit
  · exact absurd hsign (by decide)
  · exact absurd hdigit (by decide)

/-- A numeral is made of digits, signs, a point and the letter of an exponent, or it is a word. -/
theorem quote_not_mem_characters (x : Binary64) : '"' ∉ Numeral.characters Numeral.json x := by
  have hsign (cs : List Char) (h : '"' ∉ cs) : '"' ∉ (if x.negative then ['-'] else []) ++ cs := by
    cases x.negative <;> simp [h]
  unfold Numeral.characters
  dsimp only
  by_cases hnan : x.isNaN = true
  · rw [if_pos hnan]
    decide
  by_cases hinfinite : x.isInfinite = true
  · rw [if_neg hnan, if_pos hinfinite]
    exact hsign _ (by decide)
  by_cases hzero : x.isZero = true
  · rw [if_neg hnan, if_neg hinfinite, if_pos hzero]
    exact hsign _ (by decide)
  · have hpos : 0 < x.magnitude :=
      Nat.pos_of_ne_zero fun hnone => hzero (beq_iff_eq.mpr hnone)
    obtain ⟨hdigits, -⟩ := Shortest.isNearest_decimal hpos
    have hplain := (Numeral.denotes_ofDecimal (l := Numeral.json) (.inr rfl) hdigits).plain
    rw [if_neg hnan, if_neg hinfinite, if_neg hzero]
    apply hsign
    intro h
    exact absurd (hplain _ h) (by decide)

theorem quote_not_mem_lineStart (indent : Option Nat) (level : Nat) :
    '"' ∉ lineStart indent level := by
  intro h
  exact absurd (lineStart_blank indent level _ h) (by decide)

theorem quote_not_mem_separator (indent : Option Nat) (level : Nat) :
    '"' ∉ separator indent level := by
  obtain ⟨gap, hgap, hblank⟩ := exists_separator_eq indent level
  rw [hgap, List.mem_cons, not_or]
  refine ⟨by decide, ?_⟩
  intro h
  exact absurd (hblank _ h) (by decide)

section

variable {α : Type} {text : α → List Char} {strings : α → List String}

theorem hasStrings_intercalate {sep : List Char} (hsep : '"' ∉ sep) {parts : List α}
    (h : ∀ a ∈ parts, HasStrings (text a) (strings a)) :
    HasStrings (sep.intercalate (parts.map text)) (parts.flatMap strings) := by
  induction parts with
  | nil => exact hasStrings_nil List.not_mem_nil
  | cons a rest ih =>
    obtain ⟨ha, hrest⟩ := List.forall_mem_cons.mp h
    cases rest with
    | nil => simpa using ha
    | cons b more =>
      have hmore := (ha.append (hasStrings_nil hsep)).append (ih hrest)
      simpa [List.intercalate_cons_cons] using hmore

/-- The strings of an array or an object are those of its elements or fields. -/
theorem hasStrings_enclose (indent : Option Nat) (level : Nat) {opening closing : Char}
    (hopening : opening ≠ '"') (hclosing : closing ≠ '"') {parts : List α}
    (h : ∀ a ∈ parts, HasStrings (text a) (strings a)) :
    HasStrings (enclose indent level opening closing (parts.map text))
      (parts.flatMap strings) := by
  by_cases hempty : parts = []
  · subst hempty
    apply hasStrings_nil
    simp [enclose, hopening.symm, hclosing.symm]
  · have hne : parts.map text ≠ [] := mt List.map_eq_nil_iff.mp hempty
    have hbefore : HasStrings (opening :: lineStart indent (level + 1)) [] := by
      apply hasStrings_nil
      rw [List.mem_cons, not_or]
      exact ⟨hopening.symm, quote_not_mem_lineStart indent (level + 1)⟩
    have hbehind : HasStrings (lineStart indent level ++ [closing]) [] := by
      apply hasStrings_nil
      rw [List.mem_append, List.mem_singleton, not_or]
      exact ⟨quote_not_mem_lineStart indent level, hclosing.symm⟩
    have hparts := hasStrings_intercalate (quote_not_mem_separator indent (level + 1)) h
    have hall := hbefore.append (hparts.append hbehind)
    rw [enclose_eq indent level opening closing hne]
    simpa using hall

end

/-- **A written value has the strings of the value, and no others.** -/
theorem hasStrings_write (indent : Option Nat) (j : Json) (level : Nat) :
    HasStrings (write indent level j) j.strings := by
  induction j using induct_parts generalizing level with
  | null =>
    have hword : '"' ∉ "null".toList := by decide
    exact hasStrings_nil hword
  | bool b =>
    have hword : ∀ b : Bool, '"' ∉ (if b then "true" else "false").toList := by decide
    exact hasStrings_nil (hword b)
  | int n => exact hasStrings_nil (quote_not_mem_integerText n)
  | float x => exact hasStrings_nil (quote_not_mem_characters x)
  | str s => exact hasStrings_quote s
  | arr items ih =>
    rw [write_arr, strings_arr]
    apply hasStrings_enclose indent level (by decide) (by decide)
    intro j hj
    exact ih j hj (level + 1)
  | obj fields ih =>
    have hperm := sortFields_perm fields
    -- The fields are written with their keys sorted, so it is here that the order is lost.
    have hsorted : HasStrings (write indent level (.obj fields))
        ((sortFields fields).flatMap fun f => f.1 :: f.2.strings) := by
      rw [write_obj]
      apply hasStrings_enclose indent level (by decide) (by decide)
      intro f hf
      have hvalue := ih f (hperm.mem_iff.mp hf) (level + 1)
      have hcolon : HasStrings [':', ' '] [] := hasStrings_nil (by decide)
      exact (hasStrings_quote f.1).append (hcolon.append hvalue)
    obtain ⟨found, hfound, hfields⟩ := hsorted
    rw [strings_obj]
    exact ⟨found, hfound, hfields.trans (hperm.flatMap_right _)⟩

end CodeSmell.Json
