/-
Templates as segments.

A template is meant as a row of segments: texts that stand for themselves, and
facts to put in. Written out, a text has its braces doubled and a fact is its name
in braces. The scanner reads such a template segment by segment: wherever a
segment ends, it is in the state for plain text, so runs of braces, in which
doubled ones and those of a placeholder meet, are never read across the border.
-/
import CodeSmell.Template

set_option autoImplicit false

namespace CodeSmell.Template

/-- A part of a template. -/
inductive Segment where
  | text (s : String)
  | fact (name : String)
  deriving DecidableEq, Repr

/-- A character of a text as templates write it: braces are doubled. -/
def doubled (c : Char) : List Char := if c = '{' ∨ c = '}' then [c, c] else [c]

namespace Segment

/-- The segment as templates write it. -/
def written : Segment → List Char
  | text s => s.toList.flatMap doubled
  | fact name => '{' :: (name.toList ++ ['}'])

/-- What the segment becomes with some facts. -/
def filled (facts : Facts) : Segment → Except TemplateError (List Char)
  | text s => .ok s.toList
  | fact name => lookup facts name

/-- A text, or a fact under a name without braces. -/
def IsPlain : Segment → Prop
  | text _ => True
  | fact name => '{' ∉ name.toList ∧ '}' ∉ name.toList

instance (segment : Segment) : Decidable segment.IsPlain :=
  match segment with
  | text _ => inferInstanceAs (Decidable True)
  | fact name => inferInstanceAs (Decidable ('{' ∉ name.toList ∧ '}' ∉ name.toList))

/-- There is something to put in: always for a text, and for a fact if it has a name
and there is one of that name. -/
def IsDefined (facts : Facts) : Segment → Prop
  | text _ => True
  | fact name => name ≠ "" ∧ (facts.lookup name).isSome = true

/-- What the segment becomes where it is defined. -/
def shown (facts : Facts) : Segment → List Char
  | text s => s.toList
  | fact name => ((facts.lookup name).map (·.display.toList)).getD []

theorem filled_of_isDefined {facts : Facts} {segment : Segment}
    (h : segment.IsDefined facts) : segment.filled facts = .ok (segment.shown facts) := by
  cases segment with
  | text s => rfl
  | fact name =>
    obtain ⟨hname, hsome⟩ := h
    obtain ⟨value, hvalue⟩ := Option.isSome_iff_exists.mp hsome
    have hempty : ¬name.isEmpty = true := by rwa [String.isEmpty_iff]
    rw [filled, shown, lookup, if_neg hempty, hvalue]
    rfl

end Segment

/-! ## The scanner at a segment -/

theorem fillText_doubled (facts : Facts) (c : Char) (rest : List Char) :
    fillText facts (doubled c ++ rest) = (fillText facts rest).map (c :: ·) := by
  unfold doubled
  by_cases hopen : c = '{'
  · subst hopen
    rw [if_pos (.inl rfl)]
    rfl
  · by_cases hclose : c = '}'
    · subst hclose
      rw [if_pos (.inr rfl)]
      rfl
    · rw [if_neg (by rintro (h | h) <;> contradiction)]
      rw [List.singleton_append, fillText] <;> simp_all

/-- A text stands for itself. -/
theorem fillText_text (facts : Facts) (cs rest : List Char) :
    fillText facts (cs.flatMap doubled ++ rest) = (fillText facts rest).map (cs ++ ·) := by
  induction cs with
  | nil =>
    rw [List.flatMap_nil, List.nil_append]
    cases fillText facts rest <;> rfl
  | cons c cs ih =>
    rw [List.flatMap_cons, List.append_assoc, fillText_doubled, ih]
    cases fillText facts rest <;> rfl

/-- Inside a placeholder, everything up to a closing brace is its name. -/
theorem fillPlaceholder_append (facts : Facts) (seen name rest : List Char) (h : '}' ∉ name) :
    fillPlaceholder facts seen (name ++ '}' :: rest) = (do
      let value ← lookup facts (String.ofList (seen.reverse ++ name))
      let filled ← fillText facts rest
      return value ++ filled) := by
  induction name generalizing seen with
  | nil => rw [List.nil_append, fillPlaceholder, List.append_nil]
  | cons c name ih =>
    have hc : c ≠ '}' := fun hc => h (hc ▸ List.mem_cons_self)
    have hname : '}' ∉ name := fun hmem => h (List.mem_cons_of_mem c hmem)
    rw [List.cons_append, fillPlaceholder, ih (c :: seen) hname, List.reverse_cons,
      List.append_assoc, List.singleton_append]
    exact hc

/-- A name in braces is looked up. -/
theorem fillText_fact (facts : Facts) {name : List Char} (rest : List Char)
    (hopen : '{' ∉ name) (hclose : '}' ∉ name) :
    fillText facts ('{' :: (name ++ '}' :: rest)) = (do
      let value ← lookup facts (String.ofList name)
      let filled ← fillText facts rest
      return value ++ filled) := by
  have hplaceholder := fillPlaceholder_append facts [] name rest hclose
  rw [List.reverse_nil, List.nil_append] at hplaceholder
  rw [← hplaceholder]
  -- What follows the brace is not a brace of the same kind, so the two are not read as one.
  cases name with
  | nil => rw [List.nil_append, fillText] <;> simp
  | cons c name =>
    have hc : c ≠ '{' := fun hc => hopen (hc ▸ List.mem_cons_self)
    rw [List.cons_append, fillText] <;> simp [hc]

/-- A segment is read as a whole, and what it becomes stands in front of the rest. -/
theorem fillText_written (facts : Facts) {segment : Segment} (rest : List Char)
    (plain : segment.IsPlain) :
    fillText facts (segment.written ++ rest) = (do
      let value ← segment.filled facts
      let filled ← fillText facts rest
      return value ++ filled) := by
  cases segment with
  | text s =>
    rw [Segment.written, fillText_text]
    cases fillText facts rest <;> rfl
  | fact name =>
    rw [Segment.written, List.cons_append, List.append_assoc, List.singleton_append,
      fillText_fact facts rest plain.1 plain.2, String.ofList_toList]
    rfl

/-- A template that is written as segments is filled in segment by segment, and fails
with the first of them that cannot be filled in. -/
theorem fillText_segments (facts : Facts) {segments : List Segment}
    (plain : ∀ segment ∈ segments, segment.IsPlain) :
    fillText facts (segments.flatMap Segment.written)
      = (segments.mapM (Segment.filled facts)).map List.flatten := by
  induction segments with
  | nil => rfl
  | cons segment rest ih =>
    rw [List.flatMap_cons, fillText_written facts _ (plain segment List.mem_cons_self),
      ih fun s hs => plain s (List.mem_cons_of_mem segment hs), List.mapM_cons]
    cases segment.filled facts with
    | error e => rfl
    | ok value => cases rest.mapM (Segment.filled facts) <;> rfl

/-- A template that is written as segments, all of them defined, is filled in with
what the segments become. -/
theorem fill_segments {template : String} {facts : Facts} {segments : List Segment}
    (written : template.toList = segments.flatMap Segment.written)
    (plain : ∀ segment ∈ segments, segment.IsPlain)
    (defined : ∀ segment ∈ segments, segment.IsDefined facts) :
    fill template facts = .ok (String.ofList (segments.flatMap (Segment.shown facts))) := by
  have hfilled : segments.mapM (Segment.filled facts)
      = (.ok (segments.map (Segment.shown facts)) : Except TemplateError _) := by
    clear written plain
    induction segments with
    | nil => rfl
    | cons segment rest ih =>
      rw [List.mapM_cons, Segment.filled_of_isDefined (defined segment List.mem_cons_self),
        ih fun s hs => defined s (List.mem_cons_of_mem segment hs)]
      rfl
  rw [fill, written, fillText_segments facts plain, hfilled, List.flatMap_def]
  rfl

end CodeSmell.Template
