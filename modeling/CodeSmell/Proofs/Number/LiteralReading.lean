/-
How number literals are read.

The reader knows nothing of the grammar of literals. It drops separators, looks at the first
two characters and at whether all of them are digits, and goes one of four ways.

Main statement (`literal_text`): a literal is read as the double that its value is rounded
to, with two exceptions. Literals that are read as integers first, those with a prefix and
those that begin with a zero and go on with nothing but digits, have no value where they are
past the finite doubles, or where there are too many decimal digits to convert.
-/
import CodeSmell.Proofs.Number.Denotation
import CodeSmell.Proofs.Number.Literal

set_option autoImplicit false

namespace CodeSmell

/-! ## Literals that are read as integers first -/

namespace NumberLiteral

/-- The literal has a prefix, or it is nothing but digits with a zero in front. -/
def isIntegral : NumberLiteral → Bool
  | based _ _ _ => true
  | zeroOctal _ _ => true
  | decimal (.zeroLed _ _) none none => true
  | _ => false

/-- The number of decimal digits that are converted to an integer. -/
def convertedDigits : NumberLiteral → Nat
  | decimal (.zeroLed digits _) none none => digits.length + 1
  | _ => 0

/-- Why a literal is not read. -/
def refusal? (l : NumberLiteral) : Option NumeralError :=
  if Reading.digitLimit < l.convertedDigits then some (.tooManyDigits l.convertedDigits)
  else if l.isIntegral ∧ Binary64.overflow ≤ l.value then some .tooLarge
  else none

end NumberLiteral

/-! ## Digits -/

namespace LiteralDigit

variable {radix : Nat}

theorem radixDigit?_spelling : ∀ value < 16, ∀ capital : Bool,
    Text.radixDigit? 16 (spelling value capital) = some value := by
  decide

theorem radixDigit?_char (hradix : radix ≤ 16) (d : LiteralDigit radix) :
    Text.radixDigit? radix d.char = some d.value.val := by
  have hvalue := radixDigit?_spelling d.value (d.value.isLt.trans_le hradix) d.capital
  rw [Text.radixDigit?, Option.filter_eq_some_iff] at hvalue
  rw [Text.radixDigit?, Option.filter_eq_some_iff]
  exact ⟨hvalue.1, decide_eq_true d.value.isLt⟩

/-- The decimal digits stand for what their characters stand for. -/
theorem ofDigitChars_chars (ds : List (LiteralDigit 10)) :
    Nat.ofDigitChars 10 (chars ds) 0 = number ds := by
  unfold number chars
  generalize 0 = start
  induction ds generalizing start with
  | nil => rfl
  | cons d rest ih =>
    have hd : d.char.toNat - '0'.toNat = d.value := by
      rw [char_eq_digitChar le_rfl]
      exact Nat.toNat_digitChar_sub_48_of_lt_ten d.value.isLt
    rw [List.map_cons, Nat.ofDigitChars_cons, hd, ih, List.foldl_cons, Nat.mul_comm]

/-- Digits are scanned as the number that they stand for. -/
theorem scanDigits_chars (hradix : radix ≤ 16) (ds : List (LiteralDigit radix))
    (value count : Nat) :
    Reading.scanDigits radix false value count (chars ds)
      = some (ds.foldl (fun n d => n * radix + d.value) value, count + ds.length, []) := by
  induction ds generalizing value count with
  | nil => rfl
  | cons d rest ih =>
    rw [chars, List.map_cons, Reading.scanDigits, if_neg (char_ne hradix d).1,
      radixDigit?_char hradix d]
    dsimp only
    rw [← chars, ih, List.foldl_cons, List.length_cons, Nat.add_assoc, Nat.add_comm 1]

/-- Digits to the end are read as the number that they stand for, if they are not too many
decimal ones. -/
theorem digits_chars (hradix : radix ≤ 16) {ds : List (LiteralDigit radix)} (hne : ds ≠ [])
    (failure : NumeralError) :
    Reading.digits radix (chars ds) failure
      = if radix = 10 ∧ Reading.digitLimit < ds.length then .error (.tooManyDigits ds.length)
        else .ok (number ds) := by
  have hscan : Reading.scanDigits radix true 0 0 (chars ds) = some (number ds, ds.length, []) := by
    have hrest := scanDigits_chars hradix ds 0 0
    obtain ⟨d, rest, rfl⟩ := List.exists_cons_of_ne_nil hne
    -- There is a digit, so it does not matter that one must follow.
    rw [chars, List.map_cons, Reading.scanDigits, if_neg (char_ne hradix d).1,
      radixDigit?_char hradix d] at hrest ⊢
    rw [hrest, Nat.zero_add, number]
  rw [Reading.digits, hscan]
  rfl

end LiteralDigit

/-! ## Decimal literals -/

namespace ExponentSign

/-- The characters of a sign are a sign to the reader, if a digit follows. -/
theorem sign_chars_append (s : ExponentSign) {ds : List Char} (h : ∀ c ∈ ds, c.isDigit = true) :
    Reading.sign (s.chars ++ ds) = (decide (s = minus), ds) := by
  cases s with
  | unsigned =>
    refine Reading.sign_eq_self fun c hc => ?_
    obtain ⟨-, -, hminus, hplus⟩ := ne_of_isDigit (h c (List.mem_of_mem_head? hc))
    exact ⟨hminus, hplus⟩
  | plus => rfl
  | minus => rfl

end ExponentSign

namespace NumberLiteral

theorem isDigit_of_mem_chars {ds : List (LiteralDigit 10)} :
    ∀ c ∈ LiteralDigit.chars ds, c.isDigit = true :=
  fun _ => LiteralDigit.isDigit_of_mem_chars le_rfl

theorem isDigit_of_mem_fraction (fraction : Option (List (LiteralDigit 10))) :
    ∀ c ∈ (fraction.map LiteralDigit.chars).getD [], c.isDigit = true := by
  cases fraction with
  | none => simp
  | some ds => exact isDigit_of_mem_chars

/-- An exponent is read as its value. -/
theorem exponent?_plainExponent (e : Option ExponentPart) :
    Reading.exponent? (plainExponent e) = some (exponentValue e) := by
  cases e with
  | none => rfl
  | some e =>
    have hne : LiteralDigit.chars e.run.digits ≠ [] := by
      simpa [LiteralDigit.chars] using e.run.digits_ne_nil
    have hletter : e.letter = 'e' ∨ e.letter = 'E' := by
      unfold ExponentPart.letter
      cases e.capital
      · exact .inl rfl
      · exact .inr rfl
    rw [plainExponent, Reading.exponent?_cons hletter (e.sign.sign_chars_append isDigit_of_mem_chars) hne
      isDigit_of_mem_chars, LiteralDigit.ofDigitChars_chars, exponentValue, ExponentPart.value]
    simp only [decide_eq_true_eq]

theorem isPlain_plainExponent (e : Option ExponentPart) :
    ∀ c ∈ plainExponent e, Reading.isPlain c = true := by
  intro c hc
  cases e with
  | none => cases hc
  | some e =>
    rcases List.mem_cons.mp hc with rfl | hc
    · unfold ExponentPart.letter
      cases e.capital <;> rfl
    rcases List.mem_append.mp hc with hsign | hc
    · revert hsign
      cases e.sign <;> simp +contextual [ExponentSign.chars, Reading.isPlain_iff]
    · exact Reading.isPlain_of_isDigit (isDigit_of_mem_chars c hc)

section

variable (whole : List (LiteralDigit 10)) (fraction : Option (List (LiteralDigit 10)))
  (exponent : Option ExponentPart)

theorem isPlain_plainDecimal :
    ∀ c ∈ plainDecimal whole fraction exponent, Reading.isPlain c = true := by
  refine Reading.isPlain_of_mem_parts isDigit_of_mem_chars (isDigit_of_mem_fraction fraction) ?_
  exact isPlain_plainExponent exponent

/-- The digits on both sides of the point, scaled by the exponent and the length of the
fraction, are the value. -/
theorem decimalValue_eq :
    decimalValue whole (fraction.getD []) exponent
      = (LiteralDigit.number (whole ++ fraction.getD []) : ℚ)
        * 10 ^ (exponentValue exponent - (fraction.getD []).length) := by
  have hten : (10 : ℚ) ≠ 0 := by norm_num
  have hpower : (10 : ℚ) ^ (fraction.getD []).length ≠ 0 := pow_ne_zero _ hten
  rw [decimalValue, LiteralDigit.number_append, zpow_sub₀ hten, zpow_natCast]
  push_cast
  field_simp

/-- Unless it is in the spelling of old, a decimal without separators denotes its value. -/
theorem denotes_plainDecimal (hne : whole ++ fraction.getD [] ≠ [])
    (hled : Reading.isZeroLed (plainDecimal whole fraction exponent) = false) :
    Denotes (plainDecimal whole fraction exponent)
      (decimalValue whole (fraction.getD []) exponent) := by
  have hgetD : (fraction.map LiteralDigit.chars).getD []
      = LiteralDigit.chars (fraction.getD []) := by
    cases fraction <;> rfl
  have happend : LiteralDigit.chars whole ++ (fraction.map LiteralDigit.chars).getD []
      = LiteralDigit.chars (whole ++ fraction.getD []) := by
    rw [hgetD]
    exact List.map_append.symm
  refine .of_parts isDigit_of_mem_chars (isDigit_of_mem_fraction fraction) ?_
    (exponent?_plainExponent exponent) (isPlain_plainExponent exponent) hled ?_
  · rw [happend]
    simpa [LiteralDigit.chars] using hne
  · rw [happend, LiteralDigit.ofDigitChars_chars, hgetD, LiteralDigit.chars, List.length_map,
      decimalValue_eq]

/-- A point or an exponent keeps a decimal out of the spelling of old. -/
theorem isZeroLed_plainDecimal (h : fraction.isSome = true ∨ exponent.isSome = true) :
    Reading.isZeroLed (plainDecimal whole fraction exponent) = false := by
  apply Reading.isZeroLed_eq_false
  rcases h with h | h
  · obtain ⟨ds, rfl⟩ := Option.isSome_iff_exists.mp h
    refine ⟨'.', ?_, by decide⟩
    simp [plainDecimal, Reading.pointed]
  · obtain ⟨e, rfl⟩ := Option.isSome_iff_exists.mp h
    refine ⟨e.letter, ?_, ?_⟩
    · simp [plainDecimal, plainExponent]
    · unfold ExponentPart.letter
      cases e.capital <;> decide

end

end NumberLiteral

/-! ## Integers with a zero in front -/

theorem Reading.toDouble_eq {n : Nat} {x : Binary64} (hx : Binary64.IsRounding n x) :
    toDouble n = if Binary64.overflow ≤ n then .error .tooLarge else .ok x := by
  rw [toDouble, Binary64.ofNat?_eq hx]
  by_cases h : Binary64.overflow ≤ n
  · rw [if_neg (not_lt.mpr h), if_pos h]
  · rw [if_pos (not_le.mp h), if_neg h]

namespace LiteralDigit

theorem isOctalDigit_spelling : ∀ value < 10, ∀ capital : Bool,
    Reading.isOctalDigit (spelling value capital) = decide (value < 8) := by
  decide

theorem isOctalDigit_char {radix : Nat} (hradix : radix ≤ 10) (d : LiteralDigit radix) :
    Reading.isOctalDigit d.char = decide (d.value.val < 8) :=
  isOctalDigit_spelling d.value (d.value.isLt.trans_le hradix) d.capital

/-- What is all digits with a zero in front is read in the radix that its digits allow. -/
theorem literal_of_zeroLed {radix : Nat} (hradix : radix = 8 ∨ radix = 10) {text : String}
    {ds : List (LiteralDigit radix)} (hne : ds ≠ [])
    (htext : text.toList.filter (· ≠ '_') = '0' :: chars ds)
    (hoctal : (if ('0' :: chars ds).all Reading.isOctalDigit then 8 else 10) = radix)
    {x : Binary64} (hx : Binary64.IsRounding (number ds) x) :
    Reading.literal text
      = if radix = 10 ∧ Reading.digitLimit < ds.length + 1 then
          .error (.tooManyDigits (ds.length + 1))
        else if Binary64.overflow ≤ number ds then .error .tooLarge
        else .ok x := by
  have hten : radix ≤ 10 := by omega
  have hsixteen : radix ≤ 16 := by omega
  have hdigits : ∀ c ∈ chars ds, c.isDigit = true := fun _ => isDigit_of_mem_chars hten
  -- The zero in front is a digit as the others are.
  obtain ⟨zero, hzero, hchar⟩ : ∃ zero : LiteralDigit radix,
      zero.value.val = 0 ∧ zero.char = '0' := by
    rcases hradix with rfl | rfl
    · exact ⟨⟨0, false⟩, rfl, rfl⟩
    · exact ⟨⟨0, false⟩, rfl, rfl⟩
  have hcs : '0' :: chars ds = chars (zero :: ds) := by
    rw [chars, chars, List.map_cons, hchar]
  have hplain : ∀ c ∈ '0' :: chars ds, Reading.isPlain c = true :=
    List.forall_mem_cons.mpr ⟨rfl, fun c hc => Reading.isPlain_of_isDigit (hdigits c hc)⟩
  have hled : Reading.isZeroLed ('0' :: chars ds) = true :=
    Reading.isZeroLed_of_isDigit (by simpa [chars] using hne) hdigits
  rw [Reading.literal, htext, Reading.prefixRadix?_of_plain hplain]
  dsimp only
  rw [if_pos hled, hoctal, hcs, digits_chars hsixteen (List.cons_ne_nil zero ds),
    number_zero_cons hzero, List.length_cons]
  by_cases hlimit : radix = 10 ∧ Reading.digitLimit < ds.length + 1
  · rw [if_pos hlimit, if_pos hlimit]
    rfl
  · rw [if_neg hlimit, if_neg hlimit, ← Reading.toDouble_eq hx]
    rfl

end LiteralDigit

/-! ## Literals -/

namespace LiteralBase

variable (base : LiteralBase) (capital : Bool)

theorem prefixRadix?_letter (cs : List Char) :
    Reading.prefixRadix? ('0' :: base.letter capital :: cs) = some (base.radix, cs) := by
  cases base <;> cases capital <;> rfl

/-- Digits with a prefix are read as the number that they stand for. -/
theorem literal_of_based {text : String} {ds : List (LiteralDigit base.radix)} (hne : ds ≠ [])
    (htext : text.toList.filter (· ≠ '_')
      = '0' :: base.letter capital :: LiteralDigit.chars ds)
    {x : Binary64} (hx : Binary64.IsRounding (LiteralDigit.number ds) x) :
    Reading.literal text
      = if Binary64.overflow ≤ LiteralDigit.number ds then .error .tooLarge else .ok x := by
  have htrim : Text.trimEndWhere Text.isNumeralBlank (LiteralDigit.chars ds)
      = LiteralDigit.chars ds := by
    apply Text.trimEndWhere_eq_self
    intro c hc
    obtain ⟨d, -, rfl⟩ := List.mem_map.mp hc
    exact (LiteralDigit.char_ne base.radix_le d).2.2
  have hradix : base.radix ≠ 10 := by
    cases base <;> decide
  rw [Reading.literal, htext, base.prefixRadix?_letter]
  dsimp only
  rw [htrim, LiteralDigit.digits_chars base.radix_le hne, if_neg fun h => hradix h.1,
    ← Reading.toDouble_eq hx]
  rfl

end LiteralBase

namespace NumberLiteral

theorem filter_text (l : NumberLiteral) : l.text.toList.filter (· ≠ '_') = l.plainChars := by
  rw [text, String.toList_ofList, filter_chars]

/-- A literal that is not read as an integer first is not refused. -/
theorem refusal?_eq_none {l : NumberLiteral} (hdigits : l.convertedDigits = 0)
    (h : l.isIntegral = false) : l.refusal? = none := by
  rw [refusal?, hdigits, if_neg (Nat.not_lt_zero _), if_neg]
  rintro ⟨hintegral, -⟩
  exact Bool.false_ne_true (h.symm.trans hintegral)

/-- What is read as an integer first is refused if it has too many digits to convert or is past
the finite doubles. -/
theorem elim_refusal? {l : NumberLiteral} {x : Binary64} (h : l.isIntegral = true) :
    l.refusal?.elim (.ok x) .error
      = (if Reading.digitLimit < l.convertedDigits then .error (.tooManyDigits l.convertedDigits)
          else if Binary64.overflow ≤ l.value then .error .tooLarge
          else .ok x : Except NumeralError Binary64) := by
  rw [refusal?, h]
  by_cases hlimit : Reading.digitLimit < l.convertedDigits
  · rw [if_pos hlimit, if_pos hlimit, Option.elim_some]
  rw [if_neg hlimit, if_neg hlimit]
  by_cases hover : Binary64.overflow ≤ l.value
  · rw [if_pos ⟨rfl, hover⟩, if_pos hover, Option.elim_some]
  · rw [if_neg fun hand => hover hand.2, if_neg hover, Option.elim_none]

/-- Literals that are integers without being decimals are refused only past the finite
doubles. -/
theorem elim_refusal?_of_convertedDigits {l : NumberLiteral} {x : Binary64}
    (h : l.isIntegral = true) (hdigits : l.convertedDigits = 0) :
    l.refusal?.elim (.ok x) .error
      = (if Binary64.overflow ≤ l.value then .error .tooLarge
          else .ok x : Except NumeralError Binary64) := by
  rw [elim_refusal? h, hdigits, if_neg (Nat.not_lt_zero _)]

/-- A literal that is a decimal without its separators, and is not in the spelling of old, is
read as the double that its value is rounded to. -/
theorem literal_of_not_zeroLed (whole : WholePart) (fraction : Option (Option (DigitRun 10)))
    (exponent : Option ExponentPart) {x : Binary64}
    (hled : Reading.isZeroLed (plainDecimal whole.digits (fractionDigits fraction) exponent)
      = false)
    (hx : Binary64.IsRounding (decimal whole fraction exponent).value x) :
    Reading.literal (decimal whole fraction exponent).text = .ok x := by
  have hne : whole.digits ≠ [] := by
    cases whole with
    | zero => exact List.cons_ne_nil _ _
    | plain run _ => exact run.digits_ne_nil
    | zeroLed ds _ => exact List.cons_ne_nil _ _
  have hdenotes := denotes_plainDecimal whole.digits (fractionDigits fraction) exponent
    (List.append_ne_nil_of_left_ne_nil hne _) hled
  exact hdenotes.literal_of_isRounding (filter_text _) hx

/-- A decimal with a point or an exponent is not refused. -/
theorem refusal?_decimal (whole : WholePart) {fraction : Option (Option (DigitRun 10))}
    {exponent : Option ExponentPart} (h : fraction.isSome = true ∨ exponent.isSome = true) :
    (decimal whole fraction exponent).refusal? = none := by
  cases whole with
  | zero => exact refusal?_eq_none rfl rfl
  | plain run hfirst => exact refusal?_eq_none rfl rfl
  | zeroLed ds hds =>
    rcases h with h | h
    · obtain ⟨run, rfl⟩ := Option.isSome_iff_exists.mp h
      exact refusal?_eq_none rfl rfl
    · obtain ⟨e, rfl⟩ := Option.isSome_iff_exists.mp h
      cases fraction <;> exact refusal?_eq_none rfl rfl

/-- Octal digits in the spelling of old are read in radix eight. -/
theorem literal_zeroOctal (ds : List (LiteralDigit 8)) (hne : ds ≠ []) {x : Binary64}
    (hx : Binary64.IsRounding (zeroOctal ds hne).value x) :
    Reading.literal (zeroOctal ds hne).text
      = (zeroOctal ds hne).refusal?.elim (.ok x) .error := by
  have hoctal : ('0' :: LiteralDigit.chars ds).all Reading.isOctalDigit = true := by
    rw [List.all_eq_true, List.forall_mem_cons]
    refine ⟨rfl, fun c hc => ?_⟩
    obtain ⟨d, -, rfl⟩ := List.mem_map.mp hc
    rw [LiteralDigit.isOctalDigit_char (by decide)]
    exact decide_eq_true d.value.isLt
  have hintegral : (zeroOctal ds hne).isIntegral = true := rfl
  rw [LiteralDigit.literal_of_zeroLed (.inl rfl) hne (filter_text _) (if_pos hoctal) hx,
    if_neg fun h => absurd h.1 (by decide), elim_refusal?_of_convertedDigits hintegral rfl]
  rfl

/-- Digits with a zero in front, not all of them octal, are read in radix ten. -/
theorem literal_zeroLed (ds : List (LiteralDigit 10)) (hds : ∃ d ∈ ds, 8 ≤ d.value.val)
    {x : Binary64} (hx : Binary64.IsRounding (decimal (.zeroLed ds hds) none none).value x) :
    Reading.literal (decimal (.zeroLed ds hds) none none).text
      = (decimal (.zeroLed ds hds) none none).refusal?.elim (.ok x) .error := by
  have hvalue : (decimal (.zeroLed ds hds) none none).value = LiteralDigit.number ds := by
    have hzero : LiteralDigit.number (⟨0, false⟩ :: ds) = LiteralDigit.number ds :=
      LiteralDigit.number_zero_cons rfl ds
    simp [value, decimalValue, WholePart.digits, fractionDigits, exponentValue, hzero]
  have hne : ds ≠ [] := by
    obtain ⟨d, hd, -⟩ := hds
    exact List.ne_nil_of_mem hd
  have htext : (decimal (.zeroLed ds hds) none none).text.toList.filter (· ≠ '_')
      = '0' :: LiteralDigit.chars ds := by
    rw [filter_text]
    exact List.append_nil _
  have hoctal : ¬('0' :: LiteralDigit.chars ds).all Reading.isOctalDigit = true := by
    intro hall
    obtain ⟨d, hd, hlarge⟩ := hds
    have hd := List.all_eq_true.mp hall d.char (.tail _ (List.mem_map_of_mem hd))
    rw [LiteralDigit.isOctalDigit_char le_rfl] at hd
    exact Nat.not_lt.mpr hlarge (of_decide_eq_true hd)
  have hintegral : (decimal (.zeroLed ds hds) none none).isIntegral = true := rfl
  rw [hvalue] at hx
  rw [LiteralDigit.literal_of_zeroLed (.inr rfl) hne htext (if_neg hoctal) hx,
    elim_refusal? hintegral, hvalue]
  simp only [true_and]
  rfl

/-- **How literals are read.** A literal is read as the double that its value is rounded to,
unless it is refused. -/
theorem literal_text (l : NumberLiteral) {x : Binary64} (hx : Binary64.IsRounding l.value x) :
    Reading.literal l.text = l.refusal?.elim (.ok x) .error := by
  cases l with
  | based base capital run =>
    have hintegral : (based base capital run).isIntegral = true := rfl
    rw [base.literal_of_based capital run.digits_ne_nil (filter_text _) hx,
      elim_refusal?_of_convertedDigits hintegral rfl]
    rfl
  | zeroOctal ds hne => exact literal_zeroOctal ds hne hx
  | pointLed run exponent =>
    have hdenotes := denotes_plainDecimal [] (some run.digits) exponent run.digits_ne_nil
      (isZeroLed_plainDecimal _ _ _ (.inl rfl))
    exact hdenotes.literal_of_isRounding (filter_text _) hx
  | decimal whole fraction exponent =>
    by_cases hmore : fraction.isSome = true ∨ exponent.isSome = true
    · have hsome : (fractionDigits fraction).isSome = true ∨ exponent.isSome = true := by
        rwa [fractionDigits, Option.isSome_map]
      rw [literal_of_not_zeroLed whole fraction exponent (isZeroLed_plainDecimal _ _ _ hsome) hx,
        refusal?_decimal whole hmore]
      rfl
    -- Without either it is the first digit that decides.
    obtain ⟨rfl, rfl⟩ : fraction = none ∧ exponent = none := by
      simpa using hmore
    cases whole with
    | zero =>
      rw [literal_of_not_zeroLed .zero none none rfl hx]
      rfl
    | plain run hfirst =>
      have hled : Reading.isZeroLed (plainDecimal run.digits none none) = false :=
        Reading.isZeroLed_cons_of_ne (LiteralDigit.char_ne_zero hfirst) _
      rw [literal_of_not_zeroLed (.plain run hfirst) none none hled hx]
      rfl
    | zeroLed ds hds => exact literal_zeroLed ds hds hx

/-- The mark of big integers does not occur in a literal. -/
theorem ne_of_mem_text (l : NumberLiteral) {c : Char} (h : c ∈ l.text.toList) : c ≠ 'n' := by
  rintro rfl
  have hmem : 'n' ∈ l.plainChars := by
    rw [← filter_text]
    exact List.mem_filter.mpr ⟨h, rfl⟩
  have hdigits {radix : Nat} (hradix : radix ≤ 16) {ds : List (LiteralDigit radix)} :
      'n' ∉ LiteralDigit.chars ds := by
    intro hmem
    obtain ⟨d, -, hd⟩ := List.mem_map.mp hmem
    exact (LiteralDigit.char_ne hradix d).2.1 hd
  have hdecimal {whole : List (LiteralDigit 10)} {fraction : Option (List (LiteralDigit 10))}
      {exponent : Option ExponentPart} : 'n' ∉ plainDecimal whole fraction exponent := by
    intro hmem
    exact (Reading.ne_of_isPlain (isPlain_plainDecimal _ _ _ 'n' hmem)).2.2.1 rfl
  cases l with
  | based base capital run =>
    simp only [plainChars, List.mem_cons] at hmem
    rcases hmem with h | h | h
    · exact absurd h (by decide)
    · exact (base.letter_ne capital).2 h.symm
    · exact hdigits base.radix_le h
  | zeroOctal ds hne =>
    rcases List.mem_cons.mp hmem with h | h
    · exact absurd h (by decide)
    · exact hdigits (by decide) h
  | decimal whole fraction exponent => exact hdecimal hmem
  | pointLed run exponent => exact hdecimal hmem

end NumberLiteral

end CodeSmell
