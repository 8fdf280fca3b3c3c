/-
Reading plain decimals.

A decimal is plain if it is written with the ten digits, a point, the letter of an exponent
and signs; neither blanks nor digits of other scripts nor words occur in it. Such a text is
split at the point and at the exponent, and the digits before and after the point are taken
as one number, which the exponent and the length of the fraction scale by a power of ten.

Literals in code and numerals that a program writes are both plain decimals once separators
are dropped, so what they are read as follows from `literal_eq_ofDecimal` alone, where the
spelling of old, a zero before nothing but digits, is left out.
-/
import CodeSmell.Proofs.Number.Integer
import Mathlib.Data.List.TakeDrop

set_option autoImplicit false

namespace CodeSmell.Reading

/-! ## Runs of digits -/

theorem decimalDigit?_of_isDigit {c : Char} (h : c.isDigit = true) :
    Text.decimalDigit? c = some (c.toNat - '0'.toNat) := by
  obtain ⟨d, hd, rfl⟩ := exists_digitChar h
  revert d
  decide

/-- The value of a list of the ten digits is the number that they stand for. -/
theorem decimalValue_eq {cs : List Char} (h : ∀ c ∈ cs, c.isDigit = true) :
    decimalValue cs = Nat.ofDigitChars 10 cs 0 := by
  suffices hfold : ∀ start, cs.foldl (fun n c => n * 10 + (Text.decimalDigit? c).getD 0) start
      = Nat.ofDigitChars 10 cs start from hfold 0
  induction cs with
  | nil => exact fun _ => rfl
  | cons c rest ih =>
    intro start
    obtain ⟨hc, hrest⟩ := List.forall_mem_cons.mp h
    rw [List.foldl_cons, Nat.ofDigitChars_cons, decimalDigit?_of_isDigit hc, Option.getD_some,
      Nat.mul_comm start, ih hrest]

/-- Digits are taken up to the first character that is none. -/
theorem spanDigits_append {ds tail : List Char} (hds : ∀ c ∈ ds, c.isDigit = true)
    (htail : ∀ c ∈ tail.head?, Text.decimalDigit? c = none) :
    spanDigits (ds ++ tail) = (ds, tail) := by
  have hdigits : ∀ c ∈ ds, (Text.decimalDigit? c).isSome = true := by
    intro c hc
    rw [decimalDigit?_of_isDigit (hds c hc)]
    rfl
  have hstop : tail.takeWhile (fun c => (Text.decimalDigit? c).isSome) = []
      ∧ tail.dropWhile (fun c => (Text.decimalDigit? c).isSome) = tail := by
    cases tail with
    | nil => exact ⟨rfl, rfl⟩
    | cons c rest =>
      have hc : ¬(Text.decimalDigit? c).isSome = true := by
        rw [htail c rfl]
        exact Bool.false_ne_true
      exact ⟨List.takeWhile_cons_of_neg hc, List.dropWhile_cons_of_neg hc⟩
  rw [spanDigits, List.span_eq_takeWhile_dropWhile, List.takeWhile_append_of_pos hdigits,
    List.dropWhile_append_of_pos hdigits, hstop.1, hstop.2, List.append_nil]

/-! ## Signs and exponents -/

/-- Without a sign, everything is the rest. -/
theorem sign_eq_self {cs : List Char} (h : ∀ c ∈ cs.head?, c ≠ '-' ∧ c ≠ '+') :
    sign cs = (false, cs) := by
  cases cs with
  | nil => rfl
  | cons c rest =>
    obtain ⟨hminus, hplus⟩ := h c rfl
    rw [sign]
    · exact fun _ hc => hminus (List.head_eq_of_cons_eq hc)
    · exact fun _ hc => hplus (List.head_eq_of_cons_eq hc)

/-- An exponent is read as its digits with its sign. -/
theorem exponent?_cons {e : Char} {rest ds : List Char} {negative : Bool}
    (he : e = 'e' ∨ e = 'E') (hsign : sign rest = (negative, ds)) (hne : ds ≠ [])
    (hds : ∀ c ∈ ds, c.isDigit = true) :
    exponent? (e :: rest)
      = some (if negative then -(Nat.ofDigitChars 10 ds 0 : Int) else Nat.ofDigitChars 10 ds 0) := by
  have hspan : spanDigits ds = (ds, []) := by
    have hend : ∀ c ∈ ([] : List Char).head?, Text.decimalDigit? c = none :=
      fun _ hc => absurd hc (by simp)
    have h := spanDigits_append hds hend
    rwa [List.append_nil] at h
  have hcondition : ¬(ds.isEmpty || !([] : List Char).isEmpty) = true := by
    simpa using hne
  rw [exponent?, if_pos he, hsign]
  dsimp only
  rw [hspan]
  dsimp only
  rw [if_neg hcondition, decimalValue_eq hds]

/-- What is read as an exponent is empty, or begins with its letter. -/
theorem head?_of_exponent? {cs : List Char} {e : Int} (h : exponent? cs = some e) :
    ∀ c ∈ cs.head?, Text.decimalDigit? c = none ∧ c ≠ '.' := by
  cases cs with
  | nil =>
    intro c hc
    cases hc
  | cons c rest =>
    intro d hd
    obtain rfl : c = d := Option.some.inj hd
    by_cases hletter : c = 'e' ∨ c = 'E'
    · rcases hletter with rfl | rfl <;> decide
    · rw [exponent?, if_neg hletter] at h
      cases h

/-! ## The parts of a decimal -/

/-- A fraction with the point before it, or nothing. -/
def pointed : Option (List Char) → List Char
  | none => []
  | some fraction => '.' :: fraction

/-- A decimal is split into its digits and the power of ten that they are scaled by. -/
theorem decimalParts?_eq {whole tail : List Char} {fraction : Option (List Char)} {e : Int}
    (hwhole : ∀ c ∈ whole, c.isDigit = true) (hfraction : ∀ c ∈ fraction.getD [], c.isDigit = true)
    (hne : whole ++ fraction.getD [] ≠ []) (htail : exponent? tail = some e) :
    decimalParts? (whole ++ (pointed fraction ++ tail))
      = some (Nat.ofDigitChars 10 (whole ++ fraction.getD []) 0,
          e - (fraction.getD []).length) := by
  have hhead := head?_of_exponent? htail
  have hdigits : ∀ c ∈ whole ++ fraction.getD [], c.isDigit = true := by
    intro c hc
    exact (List.mem_append.mp hc).elim (hwhole c) (hfraction c)
  have hsome : ¬(whole.isEmpty && (fraction.getD []).isEmpty) = true := by
    simpa using hne
  rw [← decimalValue_eq hdigits]
  unfold decimalParts?
  cases fraction with
  | none =>
    have hspan : spanDigits (whole ++ tail) = (whole, tail) :=
      spanDigits_append hwhole fun c hc => (hhead c hc).1
    rw [pointed, List.nil_append, hspan]
    dsimp only
    split
    · -- What follows the digits is no point.
      exact absurd rfl (hhead '.' rfl).2
    · rw [htail]
      exact if_neg hsome
  | some fraction =>
    have hpoint : ∀ c ∈ ('.' :: (fraction ++ tail)).head?, Text.decimalDigit? c = none := by
      intro c hc
      obtain rfl : '.' = c := Option.some.inj hc
      decide
    have hrest : spanDigits (fraction ++ tail) = (fraction, tail) :=
      spanDigits_append hfraction fun c hc => (hhead c hc).1
    rw [pointed, List.cons_append, spanDigits_append hwhole hpoint]
    simp only [hrest, htail]
    exact if_neg hsome

/-! ## Plain texts -/

/-- The characters that plain decimals are written with. -/
def isPlain (c : Char) : Bool :=
  c.isDigit || c == '.' || c == 'e' || c == 'E' || c == '+' || c == '-'

theorem isPlain_iff {c : Char} :
    isPlain c = true
      ↔ c.isDigit = true ∨ c = '.' ∨ c = 'e' ∨ c = 'E' ∨ c = '+' ∨ c = '-' := by
  simp only [isPlain, Bool.or_eq_true, beq_iff_eq, or_assoc]

theorem isPlain_of_isDigit {c : Char} (h : c.isDigit = true) : isPlain c = true :=
  isPlain_iff.mpr (.inl h)

section

variable {whole tail : List Char} {fraction : Option (List Char)}
  (hwhole : ∀ c ∈ whole, c.isDigit = true)

include hwhole

theorem isPlain_of_mem_parts (hfraction : ∀ c ∈ fraction.getD [], c.isDigit = true)
    (htail : ∀ c ∈ tail, isPlain c = true) :
    ∀ c ∈ whole ++ (pointed fraction ++ tail), isPlain c = true := by
  intro c hc
  rcases List.mem_append.mp hc with h | hc
  · exact isPlain_of_isDigit (hwhole c h)
  rcases List.mem_append.mp hc with h | h
  · cases fraction with
    | none => cases h
    | some ds =>
      rcases List.mem_cons.mp h with rfl | h
      · rfl
      · exact isPlain_of_isDigit (hfraction c h)
  · exact htail c h

/-- A decimal begins with a digit or with its point, so with no sign. -/
theorem head?_of_parts (hne : whole ++ fraction.getD [] ≠ []) :
    ∀ c ∈ (whole ++ (pointed fraction ++ tail)).head?, c ≠ '-' ∧ c ≠ '+' := by
  intro c hc
  cases whole with
  | nil =>
    cases fraction with
    | none => exact absurd rfl hne
    | some ds =>
      obtain rfl : '.' = c := Option.some.inj hc
      decide
  | cons d rest =>
    obtain rfl : d = c := Option.some.inj hc
    obtain ⟨-, -, hminus, hplus⟩ := ne_of_isDigit (hwhole d List.mem_cons_self)
    exact ⟨hminus, hplus⟩

end

/-- Such a character is no blank and no separator, and neither announces a radix nor occurs
in the words for what is no number or not finite. -/
theorem ne_of_isPlain {c : Char} (h : isPlain c = true) :
    Text.isNumeralBlank c = false ∧ c ≠ '_' ∧ c.toLower ≠ 'n'
      ∧ c.toLower ≠ 'x' ∧ c.toLower ≠ 'o' ∧ c.toLower ≠ 'b' := by
  rcases isPlain_iff.mp h with hdigit | rfl | rfl | rfl | rfl | rfl
  · obtain ⟨d, hd, rfl⟩ := exists_digitChar hdigit
    clear h hdigit
    revert d
    decide
  all_goals decide

section

variable {cs : List Char} (hplain : ∀ c ∈ cs, isPlain c = true)

include hplain

theorem prefixRadix?_of_plain : prefixRadix? cs = none := by
  unfold prefixRadix?
  split
  · rename_i p rest
    obtain ⟨-, -, -, hx, ho, hb⟩ := ne_of_isPlain (hplain p (by simp))
    split
    · contradiction
    · contradiction
    · contradiction
    · rfl
  · rfl

/-- A plain text is none of the words, in which there is an `n`. -/
theorem map_toLower_ne_of_plain {word : List Char} (hword : 'n' ∈ word) :
    cs.map Char.toLower ≠ word := by
  rintro rfl
  obtain ⟨c, hc, hlower⟩ := List.mem_map.mp hword
  exact (ne_of_isPlain (hplain c hc)).2.2.1 hlower

/-- A plain decimal is read as the double that its parts are rounded to. -/
theorem decimal_of_plain {body : List Char} {negative : Bool} {digits : Nat} {power : Int}
    (hsign : sign cs = (negative, body)) (hbody : ∀ c ∈ body, c ∈ cs)
    (hparts : decimalParts? body = some (digits, power)) :
    decimal (String.ofList cs) = .ok (.ofDecimal negative digits power) := by
  have htrim : Text.trimWhere Text.isNumeralBlank cs = cs :=
    Text.trimWhere_eq_self fun c hc => (ne_of_isPlain (hplain c hc)).1
  have hbodyPlain : ∀ c ∈ body, isPlain c = true := fun c hc => hplain c (hbody c hc)
  have hinf : ¬(body.map Char.toLower = "inf".toList ∨ body.map Char.toLower = "infinity".toList) :=
    not_or.mpr ⟨map_toLower_ne_of_plain hbodyPlain (by decide),
      map_toLower_ne_of_plain hbodyPlain (by decide)⟩
  have hnan : ¬body.map Char.toLower = "nan".toList :=
    map_toLower_ne_of_plain hbodyPlain (by decide)
  rw [decimal, String.toList_ofList, htrim, hsign]
  dsimp only
  rw [if_neg hinf, if_neg hnan, hparts]

end

theorem isDigit_of_isDigit {c : Char} (h : c.isDigit = true) : Text.isDigit c = true := by
  rw [Text.isDigit, decimalDigit?_of_isDigit h]
  rfl

/-- A zero, and one digit or more after it, is the spelling of old. -/
theorem isZeroLed_of_isDigit {cs : List Char} (hne : cs ≠ []) (h : ∀ c ∈ cs, c.isDigit = true) :
    isZeroLed ('0' :: cs) = true := by
  obtain ⟨c, rest, rfl⟩ := List.exists_cons_of_ne_nil hne
  rw [isZeroLed, ← List.all_cons, List.all_eq_true]
  exact fun d hd => isDigit_of_isDigit (h d hd)

theorem isZeroLed_cons_of_ne {c : Char} (h : c ≠ '0') (cs : List Char) :
    isZeroLed (c :: cs) = false := by
  unfold isZeroLed
  split
  · next heq => exact absurd (List.head_eq_of_cons_eq heq) h
  · rfl

/-- Where something is no digit, it is not the spelling of old. -/
theorem isZeroLed_eq_false {cs : List Char} (h : ∃ c ∈ cs, Text.isDigit c = false) :
    isZeroLed cs = false := by
  obtain ⟨c, hc, hdigit⟩ := h
  unfold isZeroLed
  split
  · rename_i d rest
    have hmem : c ∈ d :: rest := by
      rcases List.mem_cons.mp hc with rfl | hmem
      · exact absurd hdigit (by decide)
      · exact hmem
    apply Bool.eq_false_iff.mpr
    intro hall
    rw [← List.all_cons, List.all_eq_true] at hall
    exact Bool.false_ne_true (hdigit.symm.trans (hall c hmem))
  · rfl

/-- A text that is a plain decimal once its separators are dropped is read as the double that
its parts are rounded to. -/
theorem literal_eq_ofDecimal {text : String} {cs body : List Char} {negative : Bool}
    {digits : Nat} {power : Int} (htext : text.toList.filter (· ≠ '_') = cs)
    (hplain : ∀ c ∈ cs, isPlain c = true) (hled : isZeroLed cs = false)
    (hsign : sign cs = (negative, body)) (hbody : ∀ c ∈ body, c ∈ cs)
    (hparts : decimalParts? body = some (digits, power)) :
    literal text = .ok (.ofDecimal negative digits power) := by
  have hled' : ¬isZeroLed cs = true := by
    rw [hled]
    exact Bool.false_ne_true
  rw [literal, htext, prefixRadix?_of_plain hplain]
  dsimp only
  rw [if_neg hled', decimal_of_plain hplain hsign hbody hparts]

end CodeSmell.Reading
