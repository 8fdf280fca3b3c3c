/-
What findings say.

The description of a finding is a template of its rule, filled in with the facts of the
detection; everything else about the finding is copied. So a detection has a finding
exactly if its description can be filled in (`Tells`), and going through a list of
detections ends at the first one whose description cannot.

Main statement: a description that is written as segments, texts with their braces
doubled and names in braces, says the texts and the facts as they are, whatever braces
they hold, or fails with the first name that there is no fact of. The scanner is followed
segment by segment in the module on segments; here it is put together with the rest of a
finding.
-/
import CodeSmell.Proofs.Template.Segments
import CodeSmell.Report.Finding
import CodeSmell.Text.Digit
import Mathlib.Data.List.Forall2

set_option autoImplicit false

namespace CodeSmell

/-! ## Going through a list up to the first error -/

section

variable {α β ε : Type} {f : α → Except ε β}

/-- All members of a list have a result exactly if the list of their results is the result. -/
theorem mapM_eq_ok_iff {l : List α} {r : List β} :
    l.mapM f = .ok r ↔ List.Forall₂ (fun a b => f a = .ok b) l r := by
  induction l generalizing r with
  | nil =>
    rw [List.mapM_nil, List.forall₂_nil_left_iff]
    exact ⟨fun h => (Except.ok.inj h).symm, fun h => h ▸ rfl⟩
  | cons a rest ih =>
    rw [List.mapM_cons, List.forall₂_cons_left_iff]
    constructor
    · intro h
      cases ha : f a with
      | error e =>
        rw [ha] at h
        cases h
      | ok b =>
        cases hrest : rest.mapM f with
        | error e =>
          rw [ha, hrest] at h
          cases h
        | ok bs =>
          rw [ha, hrest] at h
          exact ⟨b, bs, rfl, ih.mp hrest, (Except.ok.inj h).symm⟩
    · rintro ⟨b, bs, ha, hrest, rfl⟩
      rw [ha, ih.mpr hrest]
      rfl

/-- A list has no results exactly if a member of it has none, and the error is that of the
first such member. -/
theorem mapM_eq_error_iff {l : List α} {e : ε} :
    l.mapM f = .error e ↔ ∃ before a after, l = before ++ a :: after
      ∧ (∀ b ∈ before, ∃ r, f b = .ok r) ∧ f a = .error e := by
  constructor
  · intro h
    induction l with
    | nil => cases h
    | cons a rest ih =>
      rw [List.mapM_cons] at h
      cases ha : f a with
      | error e' =>
        rw [ha] at h
        cases h
        exact ⟨[], a, rest, rfl, List.forall_mem_nil _, ha⟩
      | ok r =>
        cases hrest : rest.mapM f with
        | ok rs =>
          rw [ha, hrest] at h
          cases h
        | error e' =>
          rw [ha, hrest] at h
          cases h
          obtain ⟨before, b, after, rfl, hbefore, hb⟩ := ih hrest
          exact ⟨a :: before, b, after, rfl, List.forall_mem_cons.mpr ⟨⟨r, ha⟩, hbefore⟩, hb⟩
  · rintro ⟨before, a, after, rfl, hbefore, ha⟩
    induction before with
    | nil =>
      rw [List.nil_append, List.mapM_cons, ha]
      rfl
    | cons b before ih =>
      obtain ⟨⟨r, hr⟩, hrest⟩ := List.forall_mem_cons.mp hbefore
      rw [List.cons_append, List.mapM_cons, hr, ih hrest]
      rfl

theorem exists_mapM_eq_error_iff {l : List α} :
    (∃ e, l.mapM f = .error e) ↔ ∃ a ∈ l, ∃ e, f a = .error e := by
  constructor
  · rintro ⟨e, h⟩
    obtain ⟨before, a, after, rfl, -, ha⟩ := mapM_eq_error_iff.mp h
    exact ⟨a, List.mem_append_right before List.mem_cons_self, e, ha⟩
  · intro h
    induction l with
    | nil => simp at h
    | cons a rest ih =>
      rw [List.mapM_cons]
      cases ha : f a with
      | error e => exact ⟨e, rfl⟩
      | ok r =>
        obtain ⟨b, hb, e, he⟩ := h
        have hrest : b ∈ rest := by
          refine (List.mem_cons.mp hb).resolve_left ?_
          rintro rfl
          rw [ha] at he
          cases he
        obtain ⟨e', he'⟩ := ih ⟨b, hrest, e, he⟩
        rw [he']
        exact ⟨e', rfl⟩

end

/-! ## The finding of a detection -/

namespace Finding

section

variable {ε : Type} (fill : Template.Filler ε)

/-- The finding is that of the detection: it says what the description of the rule
becomes with the facts, its line is the row counted from one, and everything else is the
rule's. -/
structure Tells (d : Detection) (f : Finding) : Prop where
  description : fill d.rule.description d.facts = .ok f.description
  line : f.line = d.row + 1
  id : f.id = d.rule.id
  name : f.name = d.rule.name
  message : f.message = d.rule.message
  severity : f.severity = d.rule.severity

variable {fill} {d : Detection}

theorem ofDetectionWith_eq_ok_iff {f : Finding} :
    ofDetectionWith fill d = .ok f ↔ Tells fill d f := by
  unfold ofDetectionWith
  constructor
  · intro h
    cases htext : fill d.rule.description d.facts with
    | error e =>
      rw [htext] at h
      cases h
    | ok text =>
      rw [htext] at h
      cases h
      exact ⟨htext, rfl, rfl, rfl, rfl, rfl⟩
  · intro h
    obtain ⟨htext, hline, hid, hname, hmessage, hseverity⟩ := h
    obtain ⟨id, name, description, line, message, severity⟩ := f
    subst hline hid hname hmessage hseverity
    rw [htext]
    rfl

theorem ofDetectionWith_eq_error_iff {e : ε} :
    ofDetectionWith fill d = .error e ↔ fill d.rule.description d.facts = .error e := by
  unfold ofDetectionWith
  cases fill d.rule.description d.facts with
  | error e' => simp [bind, Except.bind]
  | ok text => simp [bind, Except.bind, pure, Except.pure]

end

end Finding

/-! ## Descriptions in segments -/

/-- An identifier: letters, digits and underscores, and no digit in front. Outside of ASCII
every character is let through, so identifiers of every script are meant. -/
def IsIdentifier (name : String) : Prop :=
  (∃ c rest, name.toList = c :: rest ∧ Text.isDigit c = false)
    ∧ ∀ c ∈ name.toList, c.isAlphanum = true ∨ c = '_' ∨ 0x80 ≤ c.toNat

/-- An identifier has no braces, so it is read back from a placeholder. -/
theorem IsIdentifier.isPlain {name : String} (h : IsIdentifier name) :
    (Template.Segment.fact name).IsPlain := by
  obtain ⟨-, hall⟩ := h
  constructor
  · intro hbrace
    exact absurd (hall _ hbrace) (by decide)
  · intro hbrace
    exact absurd (hall _ hbrace) (by decide)

theorem IsIdentifier.ne_empty {name : String} (h : IsIdentifier name) : name ≠ "" := by
  rintro rfl
  obtain ⟨⟨c, rest, hname, -⟩, -⟩ := h
  exact absurd hname.symm (List.cons_ne_nil c rest)

open Template in
/-- **A description says its texts and facts.** Let the description of a rule be written as
segments: arbitrary texts, with their braces doubled, and identifiers in braces. If there is
a fact of each name, the finding of a detection says the texts and the facts, one after
another and as they are: what a fact shows is not read again. If there is no fact of some
name, there is no finding, and the error is about the first such name. -/
theorem description_of_segments {d : Detection} {segments : List Segment}
    (written : d.rule.description.toList = segments.flatMap Segment.written)
    (names : ∀ name, .fact name ∈ segments → IsIdentifier name) :
    ((∀ name, .fact name ∈ segments → (d.facts.lookup name).isSome = true) →
        Finding.ofDetection d = .ok
          { id := d.rule.id
            name := d.rule.name
            description := String.ofList (segments.flatMap (Segment.shown d.facts))
            line := d.row + 1
            message := d.rule.message
            severity := d.rule.severity })
      ∧ ∀ before name after, segments = before ++ .fact name :: after →
          (∀ earlier, .fact earlier ∈ before → (d.facts.lookup earlier).isSome = true) →
          d.facts.lookup name = none →
          Finding.ofDetection d = .error (.missingFact name) := by
  have plain : ∀ segment ∈ segments, segment.IsPlain := by
    intro segment hsegment
    cases segment with
    | text s => trivial
    | fact name => exact (names name hsegment).isPlain
  have defined : ∀ part ⊆ segments,
      (∀ name, .fact name ∈ part → (d.facts.lookup name).isSome = true) →
      ∀ segment ∈ part, segment.IsDefined d.facts := by
    intro part hpart hfacts segment hsegment
    cases segment with
    | text s => trivial
    | fact name => exact ⟨(names name (hpart hsegment)).ne_empty, hfacts name hsegment⟩
  constructor
  · intro hfacts
    have hall := defined segments (List.Subset.refl segments) hfacts
    exact Finding.ofDetectionWith_eq_ok_iff.mpr
      ⟨fill_segments written plain hall, rfl, rfl, rfl, rfl, rfl⟩
  · rintro before name after rfl hbefore hmissing
    have hname : IsIdentifier name := names name (by simp)
    have hfilled : ∀ segment ∈ before, ∃ text, segment.filled d.facts = .ok text := by
      intro segment hsegment
      have hpart := defined before (List.subset_append_left _ _) hbefore segment hsegment
      exact ⟨_, Segment.filled_of_isDefined hpart⟩
    have hlookup : (Segment.fact name).filled d.facts = .error (.missingFact name) := by
      rw [Segment.filled, lookup, if_neg (by simpa using hname.ne_empty), hmissing]
    have herror := mapM_eq_error_iff.mpr ⟨before, .fact name, after, rfl, hfilled, hlookup⟩
    refine Finding.ofDetectionWith_eq_error_iff.mpr ?_
    rw [fill, written, fillText_segments d.facts plain, herror]
    rfl

/-- A rule whose description puts a placeholder between two braces, and another one right
behind them. -/
def bracedRule : RuleInfo :=
  { id := "braced"
    name := "Braced"
    severity := .low
    description := "\x7b\x7b\x7bn\x7d\x7d\x7d\x7bm\x7d"
    message := "" }

/-- With facts that look like placeholders themselves, and without the first of the two. -/
theorem description_of_segments_braced :
    Finding.ofDetection ⟨bracedRule, 3, [("m", .int 5), ("n", .str "\x7bm\x7d\x7d")]⟩
        = .ok ⟨"braced", "Braced", "\x7b\x7bm\x7d\x7d\x7d5", 4, "", .low⟩
      ∧ Finding.ofDetection ⟨bracedRule, 3, [("m", .int 5)]⟩ = .error (.missingFact "n") := by
  let segments : List Template.Segment := [.text "\x7b", .fact "n", .text "\x7d", .fact "m"]
  have written : bracedRule.description.toList = segments.flatMap Template.Segment.written := by
    decide
  have hcases : ∀ name, .fact name ∈ segments → name = "n" ∨ name = "m" := by
    intro name hname
    simpa [segments] using hname
  have names : ∀ name, .fact name ∈ segments → IsIdentifier name := by
    intro name hname
    rcases hcases name hname with rfl | rfl
    · exact ⟨⟨'n', [], rfl, by decide⟩, by simp⟩
    · exact ⟨⟨'m', [], rfl, by decide⟩, by simp⟩
  constructor
  · refine (description_of_segments written names).1 fun name hname => ?_
    rcases hcases name hname with rfl | rfl
    · decide
    · decide
  · exact (description_of_segments written names).2
      [.text "\x7b"] "n" [.text "\x7d", .fact "m"] rfl (by simp) (by decide)

end CodeSmell
