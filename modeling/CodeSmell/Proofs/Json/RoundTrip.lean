/-
Reading a written value back.

Main statement: the text of a plain value, with any indentation or none, is read as
the value with its fields in the order of their keys. What is read is a document, and it
is that of the value: none of its strings holds a half of a surrogate pair.

`Reads` says what it takes for a text to be read as a value from anywhere inside a
longer text: it begins with the value and not with a blank or a closing bracket, and
whatever stops a number may follow it. Two such texts, a comma and blanks between
them, are read as two elements; so the lines and indentations, which are nothing but
blanks, never come into it. What the reader does need is a bound on the calls inside
one another. Twice the length of the text is enough, since a bracket takes two calls
and is a character.
-/
import CodeSmell.Proofs.Json.Document
import CodeSmell.Proofs.Json.Written

set_option autoImplicit false

namespace CodeSmell.Json

open Reader

/-! ## Blanks -/

namespace Reader

theorem skip_cons {c : Char} (h : isSpace c = false) (rest : List Char) :
    skip (c :: rest) = c :: rest := by
  have hc : ¬isSpace c = true := by
    rw [h]
    exact Bool.false_ne_true
  rw [skip, List.dropWhile_cons_of_neg hc]

/-- Blanks are skipped up to the first character that is none. -/
theorem skip_append {gap : List Char} (blank : Blank gap) {c : Char} (h : isSpace c = false)
    (rest : List Char) : skip (gap ++ c :: rest) = c :: rest := by
  rw [skip, List.dropWhile_append_of_pos blank]
  exact skip_cons h rest

/-- What follows a number may have blanks in front of it. -/
theorem stops_append {gap rest : List Char} (blank : Blank gap) (h : Stops rest) :
    Stops (gap ++ rest) := by
  cases gap with
  | nil => exact h
  | cons c gap =>
    have hspace : isSpace c = true := blank c List.mem_cons_self
    simp only [isSpace, Bool.or_eq_true, beq_iff_eq] at hspace
    rcases hspace with ((rfl | rfl) | rfl) | rfl
    all_goals exact ⟨by decide, by decide, by decide, by decide⟩

end Reader

/-! ## Texts of values -/

/-- A character that is neither a blank nor a closing bracket nor a byte order mark, so
that a value can begin with it. -/
def begins (c : Char) : Bool := !isSpace c && c != ']' && c != '\ufeff'

theorem begins_iff {c : Char} :
    begins c = true ↔ isSpace c = false ∧ c ≠ ']' ∧ c ≠ '\ufeff' := by
  rw [begins, Bool.and_eq_true, Bool.and_eq_true, Bool.not_eq_true', bne_iff_ne, bne_iff_ne,
    and_assoc]

/-- The text begins a value and, in front of whatever stops a number, is read as the
document. -/
structure Reads (text : List Char) (d : Document) : Prop where
  start : ∃ c rest, text = c :: rest ∧ begins c = true
  read : ∀ {depth : Nat} {rest : List Char}, 2 * text.length ≤ depth → Stops rest →
    value depth (text ++ rest) = .ok (d, rest)

/-- A text that begins a value holds at least a character, so the bound is not zero. -/
theorem Reads.of_succ {c : Char} {text : List Char} {d : Document} (start : begins c = true)
    (read : ∀ {depth : Nat} {rest : List Char}, 2 * text.length < depth + 1 → Stops rest →
      value (depth + 1) (c :: text ++ rest) = .ok (d, rest)) : Reads (c :: text) d where
  start := ⟨c, text, rfl, start⟩
  read := by
    intro depth rest hdepth hstops
    rw [List.length_cons] at hdepth
    obtain ⟨depth, rfl⟩ := Nat.exists_eq_add_one_of_ne_zero (n := depth) (by omega)
    exact read (by omega) hstops

theorem Reads.not_space {text : List Char} {d : Document} (h : Reads text d) :
    ∃ c rest, text = c :: rest ∧ isSpace c = false := by
  obtain ⟨c, rest, htext, hc⟩ := h.start
  exact ⟨c, rest, htext, (begins_iff.mp hc).1⟩

/-- No blank is skipped in front of a value. -/
theorem Reads.skip_append {text : List Char} {d : Document} (h : Reads text d) (rest : List Char) :
    skip (text ++ rest) = text ++ rest := by
  obtain ⟨c, more, rfl, hspace⟩ := h.not_space
  exact skip_cons hspace (more ++ rest)

theorem reads_null : Reads "null".toList .null :=
  .of_succ (by decide) fun _ _ => rfl

theorem reads_bool (b : Bool) : Reads (if b then "true" else "false").toList (.bool b) := by
  cases b with
  | true => exact .of_succ (by decide) fun _ _ => rfl
  | false => exact .of_succ (by decide) fun _ _ => rfl

theorem reads_quote (s : String) : Reads (quote s) (.str (.ofString s)) := by
  refine .of_succ (by decide) ?_
  intro depth rest _ _
  obtain ⟨body, hbody, hread⟩ := string_quote (quote s ++ rest) s rest
  change value (depth + 1) (quote s ++ rest) = _
  rw [hbody] at hread ⊢
  rw [value, hread]
  rfl

/-- A value can begin with a digit, and nothing but a number does. -/
theorem begins_of_isDigit {c : Char} (h : c.isDigit = true) :
    begins c = true ∧ c ∉ ['"', '{', '[', 'n', 't', 'f', 'N', 'I', '-'] := by
  obtain ⟨d, hd, rfl⟩ := exists_digitChar h
  revert d
  decide

/-- A value that begins with a digit, or with a minus and a digit, is a number. -/
theorem value_eq_number {c : Char} (h : c.isDigit = true) (depth : Nat) (rest : List Char) :
    value (depth + 1) (c :: rest) = number (c :: rest)
      ∧ value (depth + 1) ('-' :: c :: rest) = number ('-' :: c :: rest) := by
  obtain ⟨-, hc⟩ := begins_of_isDigit h
  simp only [List.mem_cons, List.not_mem_nil, or_false, not_or] at hc
  constructor
  · rw [value] <;> grind
  · rw [value] <;> grind

theorem reads_int {n : Int} (limit : (naturalDigits n.natAbs).length ≤ Reading.digitLimit) :
    Reads (integerText n).toList (.int n) := by
  -- Only the first characters count: a digit, or a minus and a digit.
  have hfirst : ∃ c ds, c.isDigit = true
      ∧ ((integerText n).toList = c :: ds ∨ (integerText n).toList = '-' :: c :: ds) := by
    cases n with
    | ofNat n =>
      obtain ⟨c, ds, hcons, hc⟩ := exists_naturalDigits_eq_cons n
      exact ⟨c, ds, hc, .inl (by rw [integerText, String.toList_ofList, hcons])⟩
    | negSucc n =>
      obtain ⟨c, ds, hcons, hc⟩ := exists_naturalDigits_eq_cons (n + 1)
      exact ⟨c, ds, hc, .inr (by rw [integerText, String.toList_ofList, hcons])⟩
  obtain ⟨c, ds, hc, htext⟩ := hfirst
  have hnumber {rest : List Char} (hstops : Stops rest) := number_integerText limit hstops
  rcases htext with htext | htext
  · rw [htext] at hnumber ⊢
    refine .of_succ (begins_of_isDigit hc).1 fun {depth rest} _ hstops => ?_
    rw [List.cons_append, (value_eq_number hc depth _).1]
    exact hnumber hstops
  · rw [htext] at hnumber ⊢
    refine .of_succ (by decide) fun {depth rest} _ hstops => ?_
    rw [List.cons_append, List.cons_append, (value_eq_number hc depth _).2]
    exact hnumber hstops

/-! ## Turns of the reader -/

namespace Reader

theorem value_bracket {c : Char} {cs more : List Char} (h : c ≠ ']') (hskip : skip cs = c :: more)
    (depth : Nat) : value (depth + 1) ('[' :: cs) = items depth [] (c :: more) := by
  rw [value, hskip]
  split
  · next heq => exact absurd (List.head_eq_of_cons_eq heq) h
  · rfl

theorem value_brace {cs more : List Char} (hskip : skip cs = '"' :: more) (depth : Nat) :
    value (depth + 1) ('{' :: cs) = fields depth [] ('"' :: more) := by
  rw [value, hskip]
  rfl

section

variable {depth : Nat} {cs after rest : List Char} {d : Document}
  (hread : value depth cs = .ok (d, after))

include hread

theorem items_close (hskip : skip after = ']' :: rest) (acc : List Document) :
    items (depth + 1) acc cs = .ok (.arr (acc.reverse ++ [d]), rest) := by
  rw [items, hread, ← List.reverse_cons]
  simp only [bind, Except.bind, hskip, pure, Except.pure]

theorem items_comma (hskip : skip after = ',' :: rest) (acc : List Document) :
    items (depth + 1) acc cs = items depth (d :: acc) (skip rest) := by
  rw [items, hread]
  simp only [bind, Except.bind, hskip]

variable (key : String) (hstart : skip cs = cs)

include hstart

/-- After its key a field is read up to its value. -/
theorem fields_quote (acc : List (Spelling × Document)) :
    fields (depth + 1) acc (quote key ++ ':' :: ' ' :: cs)
      = match skip after with
        | '}' :: rest => .ok (.obj (put (.ofString key) d acc), rest)
        | ',' :: rest => fields depth (put (.ofString key) d acc) (skip rest)
        | rest => .error ⟨.comma, rest⟩ := by
  obtain ⟨body, hbody, hkey⟩ :=
    string_quote (quote key ++ ':' :: ' ' :: cs) key (':' :: ' ' :: cs)
  have hspace : skip (' ' :: cs) = cs := hstart
  have hcolon : skip (':' :: ' ' :: cs) = ':' :: ' ' :: cs := skip_cons (by decide) _
  rw [hbody] at hkey ⊢
  rw [fields, hkey]
  simp only [bind, Except.bind, hcolon, hspace, hread]
  rfl

theorem fields_close (hskip : skip after = '}' :: rest) (acc : List (Spelling × Document)) :
    fields (depth + 1) acc (quote key ++ ':' :: ' ' :: cs)
      = .ok (.obj (put (.ofString key) d acc), rest) := by
  rw [fields_quote hread key hstart, hskip]
  rfl

theorem fields_comma (hskip : skip after = ',' :: rest) (acc : List (Spelling × Document)) :
    fields (depth + 1) acc (quote key ++ ':' :: ' ' :: cs)
      = fields depth (put (.ofString key) d acc) (skip rest) := by
  rw [fields_quote hread key hstart, hskip]
  rfl

end

end Reader

/-! ## Arrays and objects -/

/-- Behind an element the reader finds a comma, and behind the comma the next element. -/
theorem exists_skip_separator (indent : Option Nat) (level : Nat) {cs : List Char}
    (start : ∃ c rest, cs = c :: rest ∧ isSpace c = false) :
    Stops (separator indent level ++ cs)
      ∧ ∃ after, skip (separator indent level ++ cs) = ',' :: after ∧ skip after = cs := by
  obtain ⟨c, rest, rfl, h⟩ := start
  obtain ⟨gap, hgap, blank⟩ := exists_separator_eq indent level
  rw [hgap, List.cons_append]
  refine ⟨⟨by decide, by decide, by decide, by decide⟩, gap ++ c :: rest, ?_, ?_⟩
  · exact skip_cons (by decide) _
  · exact skip_append blank h rest

/-- The first of the elements begins them all. -/
theorem exists_intercalate_eq {first : List Char}
    (start : ∃ c rest, first = c :: rest ∧ isSpace c = false) (sep : List Char)
    (elements : List (List Char)) (rest : List Char) :
    ∃ c more, sep.intercalate (first :: elements) ++ rest = c :: more ∧ isSpace c = false := by
  obtain ⟨c, text, rfl, h⟩ := start
  rw [List.intercalate_cons_cons_left]
  exact ⟨c, _, rfl, h⟩

section

variable {indent : Option Nat} {level : Nat} {close : List Char} (blank : Blank close)

include blank

/-- Elements whose texts are read are read one after another, up to the bracket. -/
theorem items_intercalate {js : List Json} (ne : js ≠ [])
    (each : ∀ j ∈ js, Reads (write indent level j) (.ofJson j.sorted)) {depth : Nat}
    (bound : 2 * (((separator indent level).intercalate (js.map (write indent level))).length + 1)
      ≤ depth) (acc : List Document) (rest : List Char) :
    items depth acc ((separator indent level).intercalate (js.map (write indent level))
        ++ (close ++ ']' :: rest))
      = .ok (.arr (acc.reverse ++ js.map fun j => .ofJson j.sorted), rest) := by
  induction js generalizing depth acc with
  | nil => contradiction
  | cons j js ih =>
    obtain ⟨hj, hjs⟩ := List.forall_mem_cons.mp each
    obtain ⟨depth, rfl⟩ := Nat.exists_eq_add_one_of_ne_zero (n := depth) (by omega)
    cases js with
    | nil =>
      rw [List.map_singleton, List.intercalate_singleton] at bound ⊢
      have hstops : Stops (close ++ ']' :: rest) :=
        stops_append blank ⟨by decide, by decide, by decide, by decide⟩
      rw [items_close (hj.read (by omega) hstops) (skip_append blank (by decide) rest),
        List.map_singleton]
    | cons k ks =>
      obtain ⟨hstops, after, hcomma, hnext⟩ := exists_skip_separator indent level
        (exists_intercalate_eq (hjs k List.mem_cons_self).not_space (separator indent level)
          (ks.map (write indent level)) (close ++ ']' :: rest))
      have hsep := separator_length_pos indent level
      simp only [List.map_cons, List.intercalate_cons_cons, List.length_append] at bound
      rw [List.map_cons, List.map_cons, List.intercalate_cons_cons, List.append_assoc,
        List.append_assoc, items_comma (hj.read (by omega) hstops) hcomma, hnext,
        ← List.map_cons, ih (List.cons_ne_nil k ks) hjs (by rw [List.map_cons]; omega),
        List.reverse_cons, List.append_assoc, List.singleton_append]
      rfl

/-- Fields whose values are read, and whose keys are not there yet, are read one after
another, up to the brace. -/
theorem fields_intercalate {fs : List (String × Json)} {acc : List (Spelling × Document)}
    (ne : fs ≠ []) (each : ∀ f ∈ fs, Reads (write indent level f.2) (.ofJson f.2.sorted))
    {depth : Nat}
    (bound : 2 * (((separator indent level).intercalate (fs.map (fieldText indent level))).length
      + 1) ≤ depth) (distinct : (acc.map (·.1) ++ fs.map fun f => Spelling.ofString f.1).Nodup)
    (rest : List Char) :
    fields depth acc ((separator indent level).intercalate (fs.map (fieldText indent level))
        ++ (close ++ '}' :: rest))
      = .ok (.obj (acc ++ fs.map fun f => (.ofString f.1, .ofJson f.2.sorted)), rest) := by
  induction fs generalizing depth acc with
  | nil => contradiction
  | cons f fs ih =>
    obtain ⟨hf, hfs⟩ := List.forall_mem_cons.mp each
    obtain ⟨depth, rfl⟩ := Nat.exists_eq_add_one_of_ne_zero (n := depth) (by omega)
    have hlength := write_length_lt indent level f
    have hput : put (.ofString f.1) (.ofJson f.2.sorted) acc
        = acc ++ [(.ofString f.1, Document.ofJson f.2.sorted)] := by
      rw [List.map_cons] at distinct
      exact put_of_fresh (fun hmem =>
        (List.nodup_append.mp distinct).2.2 _ hmem _ List.mem_cons_self rfl) _
    cases fs with
    | nil =>
      rw [List.map_singleton, List.intercalate_singleton] at bound ⊢
      have hstops : Stops (close ++ '}' :: rest) :=
        stops_append blank ⟨by decide, by decide, by decide, by decide⟩
      rw [fieldText_append, fields_close (hf.read (by omega) hstops) f.1 (hf.skip_append _)
        (skip_append blank (by decide) rest), hput, List.map_singleton]
    | cons g gs =>
      have hstart : ∃ c rest, fieldText indent level g = c :: rest ∧ isSpace c = false :=
        ⟨'"', _, rfl, by decide⟩
      obtain ⟨hstops, after, hcomma, hnext⟩ := exists_skip_separator indent level
        (exists_intercalate_eq hstart (separator indent level)
          (gs.map (fieldText indent level)) (close ++ '}' :: rest))
      have hsep := separator_length_pos indent level
      have hkeys : ((acc ++ [(Spelling.ofString f.1, Document.ofJson f.2.sorted)]).map (·.1)
          ++ (g :: gs).map fun f => Spelling.ofString f.1).Nodup := by
        simp only [List.map_append, List.map_cons, List.map_nil, List.append_assoc] at distinct ⊢
        exact distinct
      simp only [List.map_cons, List.intercalate_cons_cons, List.length_append] at bound
      rw [List.map_cons, List.map_cons, List.intercalate_cons_cons, List.append_assoc,
        List.append_assoc, fieldText_append,
        fields_comma (hf.read (by omega) hstops) f.1 (hf.skip_append _) hcomma, hnext, hput,
        ← List.map_cons, ih (List.cons_ne_nil g gs) hfs (by rw [List.map_cons]; omega) hkeys,
        List.append_assoc, List.singleton_append]
      rfl

end

/-! ## Values -/

theorem reads_arr {indent : Option Nat} {level : Nat} {js : List Json}
    (each : ∀ j ∈ js, Reads (write indent (level + 1) j) (.ofJson j.sorted)) :
    Reads (write indent level (.arr js)) (.ofJson (Json.arr js).sorted) := by
  rw [write_arr, sorted_arr, Document.ofJson_arr, List.map_map]
  cases js with
  | nil => exact .of_succ (by decide) fun _ _ => rfl
  | cons j js =>
    rw [List.map_cons, enclose_eq indent level '[' ']' (List.cons_ne_nil _ _), ← List.map_cons]
    refine .of_succ (by decide) fun {depth rest} bound _ => ?_
    obtain ⟨c, text, hj, hc⟩ := (each j List.mem_cons_self).start
    obtain ⟨hspace, hbracket, -⟩ := begins_iff.mp hc
    have hbound : 2 * (((separator indent (level + 1)).intercalate
        ((j :: js).map (write indent (level + 1)))).length + 1) ≤ depth := by
      simp only [List.length_append, List.length_cons] at bound
      omega
    have hinner := items_intercalate (lineStart_blank indent level) (List.cons_ne_nil j js) each
      hbound [] rest
    simp only [List.map_cons, hj, List.intercalate_cons_cons_left, List.cons_append,
      List.append_assoc, List.nil_append] at hinner ⊢
    rw [value_bracket hbracket (skip_append (lineStart_blank indent (level + 1)) hspace _)]
    exact hinner

theorem reads_obj {indent : Option Nat} {level : Nat} {fs : List (String × Json)}
    (distinct : (fs.map (·.1)).Nodup)
    (each : ∀ f ∈ fs, Reads (write indent (level + 1) f.2) (.ofJson f.2.sorted)) :
    Reads (write indent level (.obj fs)) (.ofJson (Json.obj fs).sorted) := by
  have hperm : (sortFields fs).Perm fs := sortFields_perm fs
  rw [write_obj, sorted_obj, Document.ofJson_obj, List.map_map]
  have hdistinct : ((sortFields fs).map (·.1)).Nodup := (hperm.map _).nodup_iff.mpr distinct
  have heach : ∀ f ∈ sortFields fs, Reads (write indent (level + 1) f.2) (.ofJson f.2.sorted) :=
    fun f hf => each f (hperm.mem_iff.mp hf)
  generalize sortFields fs = gs at hdistinct heach
  cases gs with
  | nil => exact .of_succ (by decide) fun _ _ => rfl
  | cons f gs =>
    rw [List.map_cons, enclose_eq indent level '{' '}' (List.cons_ne_nil _ _), ← List.map_cons]
    refine .of_succ (by decide) fun {depth rest} bound _ => ?_
    have hbound : 2 * (((separator indent (level + 1)).intercalate
        ((f :: gs).map (fieldText indent (level + 1)))).length + 1) ≤ depth := by
      simp only [List.length_append, List.length_cons] at bound
      omega
    have hkeys : ((([] : List (Spelling × Document)).map (·.1)
        ++ (f :: gs).map fun f => Spelling.ofString f.1)).Nodup :=
      Spelling.nodup_map_ofString hdistinct
    have hinner := fields_intercalate (lineStart_blank indent level) (List.cons_ne_nil f gs) heach
      hbound hkeys rest
    obtain ⟨text, htext⟩ : ∃ text, fieldText indent (level + 1) f = '"' :: text := ⟨_, rfl⟩
    simp only [List.map_cons, htext, List.intercalate_cons_cons_left, List.cons_append,
      List.append_assoc, List.nil_append] at hinner ⊢
    rw [value_brace (skip_append (lineStart_blank indent (level + 1)) (by decide) _)]
    exact hinner

/-- The text of a plain value is read as the document of the value with its fields in order. -/
theorem IsPlain.reads_write {j : Json} (h : j.IsPlain) (indent : Option Nat) (level : Nat) :
    Reads (write indent level j) (.ofJson j.sorted) := by
  induction h generalizing level with
  | null => exact reads_null
  | bool b => exact reads_bool b
  | int limit => exact reads_int limit
  | str s => exact reads_quote s
  | arr _ ih => exact reads_arr fun j hj => ih j hj (level + 1)
  | obj distinct _ ih => exact reads_obj distinct fun f hf => ih f hf (level + 1)

/-! ## Documents -/

/-- A document begins with its value. -/
theorem IsPlain.exists_toList_render_eq {j : Json} (h : j.IsPlain) (indent : Option Nat) :
    ∃ c rest, (render indent j).toList = c :: rest ∧ begins c = true := by
  obtain ⟨c, rest, htext, hc⟩ := (h.reads_write indent 0).start
  rw [render, String.toList_ofList, htext]
  exact ⟨c, rest ++ ['\n'], rfl, hc⟩

/-- A written document is read as that of the value with its fields in order. -/
theorem IsPlain.document_render {j : Json} (h : j.IsPlain) (indent : Option Nat) :
    Document.parse (render indent j).toList = .ok (.ofJson j.sorted) := by
  have hreads := h.reads_write indent 0
  have hstops : Stops ['\n'] := ⟨by decide, by decide, by decide, by decide⟩
  have hbound : 2 * (write indent 0 j).length ≤ 2 * (render indent j).toList.length + 2 := by
    rw [render, String.toList_ofList, List.length_append]
    omega
  rw [Document.parse, document]
  · rw [render, String.toList_ofList] at hbound ⊢
    rw [hreads.skip_append, hreads.read hbound hstops]
    rfl
  · obtain ⟨c, rest, htext, hc⟩ := h.exists_toList_render_eq indent
    intro _ heq
    rw [htext] at heq
    exact (begins_iff.mp hc).2.2 (List.head_eq_of_cons_eq heq)

/-- A written value is read as the value with its fields in order. -/
theorem IsPlain.parse_render {j : Json} (h : j.IsPlain) (indent : Option Nat) :
    parse (render indent j).toList = .ok j.sorted := by
  rw [parse, h.document_render indent]
  exact congrArg Except.ok (Document.toJson_ofJson j.sorted)

end CodeSmell.Json
