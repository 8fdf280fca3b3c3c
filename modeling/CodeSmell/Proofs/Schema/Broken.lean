/-
Violations are broken keywords.

The list of violations is compared with what the written schema says of a value. Main
statement: the list holds, for each place and keyword, a violation exactly if the keyword at
that place of the written schema is broken by what stands at that place of the value. So the
violation that is reported is a true one, and as near to the top as any.

Violations are compared by `ListedAt`, which keeps the path and the keyword and forgets the
wording. The proof goes along the schema. A scalar has violations only at its own place; a
list and a record hand on those of what is inside, one step further down.
-/
import CodeSmell.Proofs.Schema.Conformance
import CodeSmell.Proofs.Schema.Keyword

set_option autoImplicit false

namespace CodeSmell.Schema

open Json

/-! ## Places in a list of violations -/

/-- One of the violations is at a place and of a keyword. -/
def ListedAt (vs : List Violation) (path : List Step) (keyword : String) : Prop :=
  ∃ v ∈ vs, v.path = path ∧ v.breach.keyword = keyword

section

variable {path : List Step} {k : String}

theorem not_listedAt_nil : ¬ListedAt [] path k := by
  rintro ⟨v, hv, -⟩
  cases hv

theorem listedAt_append {vs ws : List Violation} :
    ListedAt (vs ++ ws) path k ↔ ListedAt vs path k ∨ ListedAt ws path k := by
  simp only [ListedAt, List.mem_append, or_and_right, exists_or]

theorem listedAt_here {b : Breach} : ListedAt [here b] path k ↔ path = [] ∧ k = b.keyword := by
  simp only [ListedAt, List.mem_singleton, exists_eq_left, here, eq_comm]

theorem listedAt_breachIf {condition : Bool} {b : Breach} :
    ListedAt (breachIf condition b) path k ↔ path = [] ∧ k = b.keyword ∧ condition = true := by
  cases condition with
  | false => exact iff_of_false not_listedAt_nil (fun h => Bool.false_ne_true h.2.2)
  | true => exact listedAt_here.trans (by simp)

theorem listedAt_map_under {vs : List Violation} {step : Step} :
    ListedAt (vs.map (·.under step)) path k
      ↔ ∃ rest, path = step :: rest ∧ ListedAt vs rest k := by
  constructor
  · rintro ⟨_, hmem, rfl, hk⟩
    obtain ⟨v, hv, rfl⟩ := List.mem_map.mp hmem
    exact ⟨v.path, rfl, v, hv, rfl, hk⟩
  · rintro ⟨rest, rfl, v, hv, rfl, hk⟩
    exact ⟨v.under step, List.mem_map_of_mem hv, rfl, hk⟩

theorem listedAt_underIndexes {violations : Json → List Violation} {items : List Json} {i : Nat} :
    ListedAt (underIndexes violations i items) path k
      ↔ ∃ n item rest, items[n]? = some item ∧ path = .index (i + n) :: rest
          ∧ ListedAt (violations item) rest k := by
  induction items generalizing i with
  | nil =>
    refine iff_of_false not_listedAt_nil ?_
    rintro ⟨n, item, rest, h, -⟩
    cases h
  | cons item items ih =>
    rw [underIndexes, listedAt_append, listedAt_map_under, ih]
    constructor
    · rintro (⟨rest, rfl, h⟩ | ⟨n, found, rest, hfound, rfl, h⟩)
      · exact ⟨0, item, rest, rfl, rfl, h⟩
      · exact ⟨n + 1, found, rest, hfound, by rw [Nat.add_right_comm, Nat.add_assoc], h⟩
    · rintro ⟨n, found, rest, hfound, rfl, h⟩
      cases n with
      | zero =>
        obtain rfl := Option.some.inj hfound
        exact .inl ⟨rest, rfl, h⟩
      | succ n =>
        exact .inr ⟨n, found, rest, hfound, by rw [Nat.add_right_comm, Nat.add_assoc], h⟩

theorem listedAt_missing {names : List String} {fields : List (String × Json)} :
    ListedAt ((names.filter fun name => (field? fields name).isNone).map
        fun name => here (.missingField name)) path k
      ↔ path = [] ∧ k = "required" ∧ ∃ name ∈ names, field? fields name = none := by
  constructor
  · rintro ⟨_, hmem, rfl, rfl⟩
    obtain ⟨name, hname, rfl⟩ := List.mem_map.mp hmem
    obtain ⟨hname, hnone⟩ := List.mem_filter.mp hname
    exact ⟨rfl, rfl, name, hname, Option.isNone_iff_eq_none.mp hnone⟩
  · rintro ⟨rfl, rfl, name, hname, hnone⟩
    have hkept : name ∈ names.filter fun name => (field? fields name).isNone :=
      List.mem_filter.mpr ⟨hname, Option.isNone_iff_eq_none.mpr hnone⟩
    exact ⟨_, List.mem_map_of_mem hkept, rfl, rfl⟩

theorem listedAt_fieldViolations {schemas : List (String × Schema)}
    {fields : List (String × Json)} :
    ListedAt (fieldViolations fields schemas) path k
      ↔ ∃ s ∈ schemas, ∃ value rest, field? fields s.1 = some value
          ∧ path = .field s.1 :: rest ∧ ListedAt (s.2.violations value) rest k := by
  induction schemas with
  | nil => exact iff_of_false not_listedAt_nil (by simp)
  | cons s schemas ih =>
    obtain ⟨name, s⟩ := s
    rw [fieldViolations, listedAt_append, ih, List.exists_mem_cons_iff]
    refine or_congr_left ?_
    cases field? fields name with
    | none => exact iff_of_false not_listedAt_nil (by simp)
    | some value => simp [listedAt_map_under]

end

/-! ## Violations are what is broken -/

/-- A schema can be read off its written form: the fields of a record have different names,
and the elements of a list are defined under the name that the list refers to. -/
inductive Readable (definitions : List (String × Json)) : Schema → Prop where
  | exactly (t : String) : Readable definitions (.exactly t)
  | oneOf (ts : List String) : Readable definitions (.oneOf ts)
  | text (nonEmpty : Bool) : Readable definitions (.text nonEmpty)
  | textOrNull : Readable definitions .textOrNull
  | integer (minimum : Int) : Readable definitions (.integer minimum)
  | list {name : String} {element : Schema}
      (defined : resolve? definitions (.obj [("$ref", .str ("#/$defs/" ++ name))])
        = some element.toJson)
      (readable : Readable definitions element) : Readable definitions (.list name element)
  | record {schemas : List (String × Schema)} (distinct : (schemas.map (·.1)).Nodup)
      (each : ∀ s ∈ schemas, Readable definitions s.2) : Readable definitions (.record schemas)

section

variable {definitions : List (String × Json)} {path : List Step} {k : String} {j : Json}

/-- No form is written as a reference. -/
theorem resolve?_toJson (s : Schema) : resolve? definitions s.toJson = some s.toJson := by
  cases s with
  | text nonEmpty => cases nonEmpty <;> rfl
  | _ => rfl

/-- Below a schema that says nothing of what is inside, nothing is broken. -/
theorem breaksAt_of_scalar {written : Json} (hproperties : written.get? "properties" = none)
    (hitems : written.get? "items" = none) :
    BreaksAt definitions written j path k ↔ path = [] ∧ Breaks written j k := by
  cases path with
  | nil => simp [breaksAt_nil]
  | cons step path =>
    refine iff_of_false ?_ (by simp)
    intro h
    obtain ⟨inner, -, hinner, -⟩ := breaksAt_cons.mp h
    cases step with
    | field key =>
      rw [part?, hproperties] at hinner
      cases hinner
    | index i =>
      rw [part?, hitems] at hinner
      cases hinner

theorem listedAt_list {name : String} {element : Schema}
    (defined : resolve? definitions (.obj [("$ref", .str ("#/$defs/" ++ name))])
      = some element.toJson)
    (ih : ∀ j path, ListedAt (element.violations j) path k
      ↔ BreaksAt definitions element.toJson j path k) :
    ListedAt ((list name element).violations j) path k
      ↔ BreaksAt definitions (list name element).toJson j path k := by
  cases path with
  | nil =>
    -- At its own place a list can only be of the wrong kind.
    rw [breaksAt_nil, breaks_list_iff]
    cases j <;> simp [violations, listedAt_here, listedAt_underIndexes, Breach.keyword]
  | cons step rest =>
    rw [breaksAt_cons]
    constructor
    · intro h
      cases j with
      | arr items =>
        obtain ⟨n, item, rest, hitem, hpath, h⟩ := listedAt_underIndexes.mp h
        rw [Nat.zero_add] at hpath
        obtain ⟨rfl, rfl⟩ := List.cons.inj hpath
        exact ⟨element.toJson, item, defined, hitem, (ih item rest).mp h⟩
      | _ => exact absurd (listedAt_here.mp h).1 (List.cons_ne_nil _ _)
    · rintro ⟨inner, value, hinner, hvalue, h⟩
      cases step with
      | field key => cases hinner
      | index n =>
        obtain rfl := Option.some.inj (defined.symm.trans hinner)
        cases j with
        | arr items =>
          exact listedAt_underIndexes.mpr
            ⟨n, value, rest, hvalue, by rw [Nat.zero_add], (ih value rest).mpr h⟩
        | _ => cases hvalue

/-- Of the fields of a record, each is asked for by its name. -/
theorem part?_record {schemas : List (String × Schema)} (distinct : (schemas.map (·.1)).Nodup)
    {key : String} {inner : Json} :
    part? definitions (record schemas).toJson (.field key) = some inner
      ↔ ∃ s ∈ schemas, s.1 = key ∧ s.2.toJson = inner := by
  have hnames : ((fieldsJson schemas).map (·.1)).Nodup := by
    rw [fieldsJson_eq_map, List.map_map]
    exact distinct
  change (field? (fieldsJson schemas) key).bind (resolve? definitions) = some inner ↔ _
  rw [Option.bind_eq_some_iff]
  constructor
  · rintro ⟨found, hfound, hresolve⟩
    rw [field?_eq_some_iff hnames, fieldsJson_eq_map] at hfound
    obtain ⟨s, hs, hpair⟩ := List.mem_map.mp hfound
    obtain ⟨rfl, rfl⟩ := Prod.mk.inj hpair
    rw [resolve?_toJson] at hresolve
    exact ⟨s, hs, rfl, Option.some.inj hresolve⟩
  · rintro ⟨s, hs, rfl, rfl⟩
    refine ⟨s.2.toJson, ?_, resolve?_toJson s.2⟩
    rw [field?_eq_some_iff hnames, fieldsJson_eq_map]
    exact List.mem_map.mpr ⟨s, hs, rfl⟩

/-- Inside an object, the violations are those of its fields. -/
theorem listedAt_record_cons {schemas : List (String × Schema)} {fields : List (String × Json)}
    {step : Step} :
    ListedAt ((record schemas).violations (.obj fields)) (step :: path) k
      ↔ ∃ s ∈ schemas, ∃ value, field? fields s.1 = some value ∧ step = .field s.1
          ∧ ListedAt (s.2.violations value) path k := by
  rw [violations, listedAt_append, listedAt_append, listedAt_breachIf, listedAt_missing,
    listedAt_fieldViolations]
  simp

theorem listedAt_record {schemas : List (String × Schema)}
    (distinct : (schemas.map (·.1)).Nodup)
    (ih : ∀ s ∈ schemas, ∀ j path, ListedAt (s.2.violations j) path k
      ↔ BreaksAt definitions s.2.toJson j path k) :
    ListedAt ((record schemas).violations j) path k
      ↔ BreaksAt definitions (record schemas).toJson j path k := by
  cases path with
  | nil =>
    -- The violations of fields have paths that are not empty, so they are none of these.
    rw [breaksAt_nil, breaks_record_iff]
    cases j with
    | obj fields =>
      have hextra : (!(unexpected (schemas.map (·.1)) fields).isEmpty) = true
          ↔ ∃ f ∈ fields, f.1 ∉ schemas.map (·.1) := by
        rw [Bool.not_eq_true', ← Bool.not_eq_true, List.isEmpty_iff, unexpected_eq_nil_iff]
        simp
      rw [violations, listedAt_append, listedAt_append, listedAt_breachIf, listedAt_missing,
        listedAt_fieldViolations, hextra]
      simp [Breach.keyword]
    | _ => simp [violations, listedAt_here, Breach.keyword]
  | cons step rest =>
    rw [breaksAt_cons]
    constructor
    · intro h
      cases j with
      | obj fields =>
        obtain ⟨s, hs, value, hvalue, rfl, hinside⟩ := listedAt_record_cons.mp h
        exact ⟨s.2.toJson, value, (part?_record distinct).mpr ⟨s, hs, rfl, rfl⟩, hvalue,
          (ih s hs value rest).mp hinside⟩
      | _ => exact absurd (listedAt_here.mp h).1 (List.cons_ne_nil _ _)
    · rintro ⟨inner, value, hinner, hvalue, h⟩
      cases step with
      | field key =>
        obtain ⟨s, hs, rfl, rfl⟩ := (part?_record distinct).mp hinner
        cases j with
        | obj fields =>
          exact listedAt_record_cons.mpr ⟨s, hs, value, hvalue, rfl, (ih s hs value rest).mpr h⟩
        | _ => cases hvalue
      | index n => cases hinner

/-- A violation is listed at a place exactly if its keyword is broken there. -/
theorem listedAt_violations_iff {s : Schema} (h : s.Readable definitions) (j : Json)
    (path : List Step) :
    ListedAt (s.violations j) path k ↔ BreaksAt definitions s.toJson j path k := by
  induction h generalizing j path with
  | exactly t =>
    rw [breaksAt_of_scalar rfl rfl, breaks_exactly_iff]
    cases j <;> simp [violations, listedAt_breachIf, Breach.keyword]
  | oneOf ts =>
    rw [breaksAt_of_scalar rfl rfl, breaks_oneOf_iff]
    cases j <;> simp [violations, listedAt_breachIf, Breach.keyword]
  | text nonEmpty =>
    have hkeys : (text nonEmpty).toJson.get? "properties" = none
        ∧ (text nonEmpty).toJson.get? "items" = none := by
      cases nonEmpty <;> exact ⟨rfl, rfl⟩
    rw [breaksAt_of_scalar hkeys.1 hkeys.2, breaks_text_iff]
    cases j <;> simp [violations, listedAt_here, listedAt_breachIf, Breach.keyword]
  | textOrNull =>
    rw [breaksAt_of_scalar rfl rfl, breaks_textOrNull_iff]
    cases j <;> simp [violations, listedAt_here, not_listedAt_nil, Breach.keyword]
  | integer minimum =>
    rw [breaksAt_of_scalar rfl rfl, breaks_integer_iff, violations, listedAt_append,
      listedAt_breachIf, listedAt_breachIf, Bool.not_eq_true', and_or_left]
    rfl
  | list defined _ ih => exact listedAt_list defined ih
  | record distinct _ ih => exact listedAt_record distinct ih

end

/-! ## The violation that is reported -/

/-- Of two violations, the one that is kept is at most as deep as each of them. -/
theorem length_path_kept_le (a b : Violation) :
    (if a.outranks b then a else b).path.length ≤ a.path.length
      ∧ (if a.outranks b then a else b).path.length ≤ b.path.length := by
  cases h : a.outranks b with
  | true =>
    rw [if_pos rfl]
    refine ⟨Nat.le_refl _, Nat.le_of_not_lt fun hlt => ?_⟩
    rw [Violation.outranks, Nat.compare_eq_gt.mpr hlt] at h
    cases h
  | false =>
    rw [if_neg Bool.false_ne_true]
    refine ⟨Nat.le_of_not_lt fun hlt => ?_, Nat.le_refl _⟩
    rw [Violation.outranks, Nat.compare_eq_lt.mpr hlt] at h
    cases h

/-- What is kept in the end is one of the violations gone through, and none of them is nearer
to the top. -/
theorem selectFrom_spec (best : Violation) (vs : List Violation) :
    Violation.selectFrom best vs ∈ best :: vs
      ∧ ∀ w ∈ best :: vs, (Violation.selectFrom best vs).path.length ≤ w.path.length := by
  induction vs generalizing best with
  | nil => simp [Violation.selectFrom]
  | cons v rest ih =>
    obtain ⟨hmem, hleast⟩ := ih (if v.outranks best then v else best)
    obtain ⟨hv, hbest⟩ := length_path_kept_le v best
    obtain ⟨hkept, hrest⟩ := List.forall_mem_cons.mp hleast
    rw [Violation.selectFrom]
    constructor
    · rcases List.mem_cons.mp hmem with h | h
      · rw [h]
        split <;> simp
      · exact List.mem_cons_of_mem _ (List.mem_cons_of_mem _ h)
    · refine List.forall_mem_cons.mpr ⟨hkept.trans hbest, ?_⟩
      exact List.forall_mem_cons.mpr ⟨hkept.trans hv, hrest⟩

/-- The violation that is reported is one of the list, and none of the list is nearer to the
top. -/
theorem select_spec {vs : List Violation} {v : Violation} (h : Violation.select vs = some v) :
    v ∈ vs ∧ ∀ w ∈ vs, v.path.length ≤ w.path.length := by
  cases vs with
  | nil => cases h
  | cons first rest =>
    obtain rfl := Option.some.inj h
    exact selectFrom_spec first rest

/-- A check reports a keyword that is broken where it says, and no keyword is broken nearer to
the top. -/
theorem breaksAt_of_check_eq_error {definitions : List (String × Json)} {s : Schema}
    (hs : s.Readable definitions) {j : Json} {v : Violation} (h : s.check j = .error v) :
    BreaksAt definitions s.toJson j v.path v.breach.keyword
      ∧ ∀ path keyword, BreaksAt definitions s.toJson j path keyword →
          v.path.length ≤ path.length := by
  have hselect : Violation.select (s.violations j) = some v := by
    rw [check] at h
    split at h
    · cases h
    · rename_i w hw
      exact hw.trans (congrArg some (Except.error.inj h))
  obtain ⟨hmem, hleast⟩ := select_spec hselect
  refine ⟨(listedAt_violations_iff hs j v.path).mp ⟨v, hmem, rfl, rfl⟩, ?_⟩
  intro path keyword hbroken
  obtain ⟨w, hw, rfl, -⟩ := (listedAt_violations_iff hs j path).mpr hbroken
  exact hleast w hw

end CodeSmell.Schema
