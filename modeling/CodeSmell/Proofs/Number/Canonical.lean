/-
The canonical numeral.

A number has many numerals, and scripts print one of them. Taken apart at its sign, its point
and its `e`, it has no digit that could be left out: no zero at the end of a fraction, none at
the front but the single one before a point, none in front of an exponent. What is left open is
the notation, and the size of the number decides on that.

The program never looks at the size. It counts the digits and asks where the point would stand
among them, so the work is in two steps. The digits of the shortest decimal end in no zero, so
each of the four arrangements of them is canonical (`exists_positional`, `exists_scientific`);
and the place of the point is a bound on powers of ten (`mul_zpow_lt_iff`). That a canonical
numeral has a point exactly if it is no whole number, and that it has the value of the decimal,
is then true of canonical numerals in general.

Main statement (`scripts_print_canonical_numerals`): what scripts print for a finite double
other than zero is the canonical numeral with its sign and the value that messages show for its
absolute value, in exponent notation exactly below a millionth and from ten to the 21st on.
-/
import CodeSmell.Proofs.Number.ReadBack

set_option autoImplicit false

namespace CodeSmell

open Binary64

/-- A text denotes one number at most. -/
theorem Denotes.unique {cs : List Char} {p q : ℚ} (hp : Denotes cs p) (hq : Denotes cs q) :
    p = q := by
  obtain ⟨n, e, hparts, rfl⟩ := hp.parts
  obtain ⟨m, f, hparts', rfl⟩ := hq.parts
  obtain ⟨rfl, rfl⟩ := Prod.mk.inj (Option.some.inj (hparts.symm.trans hparts'))
  rfl

/-! ## Numerals taken apart -/

namespace Numeral

/-- A numeral, taken apart at its sign, its point and its `e`. -/
structure Parts where
  negative : Bool
  whole : List Char
  /-- What stands behind the point, nothing where there is no point. -/
  fraction : Option (List Char)
  /-- The exponent, whether it is negative and its digits; nothing in fixed notation. -/
  exponent : Option (Bool × List Char)

namespace Parts

/-- The `e` and what follows it. -/
def tail (p : Parts) : List Char :=
  match p.exponent with
  | none => []
  | some (negative, ds) => 'e' :: (if negative then '-' else '+') :: ds

/-- The numeral without its sign. -/
def unsigned (p : Parts) : List Char := p.whole ++ (Reading.pointed p.fraction ++ p.tail)

/-- The numeral. -/
def chars (p : Parts) : List Char := (if p.negative then ['-'] else []) ++ p.unsigned

/-- The exponent as a number. -/
def power (p : Parts) : ℤ :=
  match p.exponent with
  | none => 0
  | some (negative, ds) =>
    if negative then -(Nat.ofDigitChars 10 ds 0 : ℤ) else Nat.ofDigitChars 10 ds 0

/-- The digits as one number, without the point. -/
def mantissa (p : Parts) : ℕ := Nat.ofDigitChars 10 (p.whole ++ p.fraction.getD []) 0

/-- The number that the numeral without its sign stands for. -/
def size (p : Parts) : ℚ := p.mantissa * 10 ^ (p.power - (p.fraction.getD []).length)

/-- The number that the numeral stands for. -/
def value (p : Parts) : ℚ := if p.negative then -p.size else p.size

/-- Nothing in the numeral could be left out. -/
structure IsCanonical (p : Parts) : Prop where
  isDigit : ∀ c ∈ p.whole ++ p.fraction.getD [], c.isDigit = true
  whole_ne_nil : p.whole ≠ []
  /-- Behind a point there are digits, and the last one is not a zero. -/
  fraction_last : ∀ f ∈ p.fraction, ∃ c ∈ f.getLast?, c ≠ '0'
  /-- In fixed notation, a zero in front is a single one, directly before a point. -/
  fixed_first : p.exponent = none → p.whole.head? = some '0' →
    p.whole = ['0'] ∧ p.fraction.isSome = true
  /-- In exponent notation, one digit that is not a zero stands in front. -/
  mantissa_first : p.exponent.isSome = true → ∃ c, p.whole = [c] ∧ c ≠ '0'
  exponent_isDigit : ∀ e ∈ p.exponent, ∀ c ∈ e.2, c.isDigit = true
  /-- The exponent has digits, and the first one is not a zero. -/
  exponent_first : ∀ e ∈ p.exponent, ∃ c ∈ e.2.head?, c ≠ '0'

variable {p : Parts}

theorem IsCanonical.exponent?_tail (h : p.IsCanonical) :
    Reading.exponent? p.tail = some p.power := by
  unfold tail power
  have hdigits := h.exponent_isDigit
  have hfirst := h.exponent_first
  cases hexponent : p.exponent with
  | none => rfl
  | some e =>
    obtain ⟨negative, ds⟩ := e
    obtain ⟨c, hc, -⟩ := hfirst _ hexponent
    have hne : ds ≠ [] := by
      rintro rfl
      cases hc
    have hsign : Reading.sign ((if negative then '-' else '+') :: ds) = (negative, ds) := by
      cases negative <;> rfl
    exact Reading.exponent?_cons (.inl rfl) hsign hne (hdigits _ hexponent)

theorem IsCanonical.isPlain_of_mem_tail (h : p.IsCanonical) {c : Char} (hc : c ∈ p.tail) :
    Reading.isPlain c = true := by
  have hdigits := h.exponent_isDigit
  unfold tail at hc
  cases hexponent : p.exponent with
  | none =>
    rw [hexponent] at hc
    cases hc
  | some e =>
    rw [hexponent] at hc
    rcases List.mem_cons.mp hc with rfl | hc
    · rfl
    rcases List.mem_cons.mp hc with rfl | hc
    · split <;> rfl
    · exact Reading.isPlain_of_isDigit (hdigits _ hexponent c hc)

/-- A canonical numeral is not in the spelling of old: if it begins with a zero, it has a
point. -/
theorem IsCanonical.isZeroLed_unsigned (h : p.IsCanonical) :
    Reading.isZeroLed p.unsigned = false := by
  obtain ⟨c, rest, hwhole⟩ := List.exists_cons_of_ne_nil h.whole_ne_nil
  have hcons : p.unsigned = c :: (rest ++ (Reading.pointed p.fraction ++ p.tail)) := by
    rw [unsigned, hwhole, List.cons_append]
  by_cases hc : c = '0'
  · have hhead : p.whole.head? = some '0' := by rw [hwhole, List.head?_cons, hc]
    have hfixed : p.exponent = none := by
      refine Option.eq_none_iff_forall_not_mem.mpr fun e he => ?_
      obtain ⟨d, hd, hne⟩ := h.mantissa_first (Option.isSome_of_mem he)
      rw [hd] at hhead
      exact hne (Option.some.inj hhead)
    obtain ⟨f, hf⟩ := Option.isSome_iff_exists.mp (h.fixed_first hfixed hhead).2
    refine Reading.isZeroLed_eq_false ⟨'.', ?_, by decide⟩
    rw [unsigned, hf]
    simp [Reading.pointed]
  · rw [hcons]
    exact Reading.isZeroLed_cons_of_ne hc _

/-- **A canonical numeral denotes what it stands for.** -/
theorem IsCanonical.denotes (h : p.IsCanonical) : Denotes p.unsigned p.size := by
  refine .of_parts (fun c hc => h.isDigit c (List.mem_append_left _ hc))
    (fun c hc => h.isDigit c (List.mem_append_right _ hc)) ?_ h.exponent?_tail
    (fun c hc => h.isPlain_of_mem_tail hc) h.isZeroLed_unsigned rfl
  exact List.append_ne_nil_of_left_ne_nil h.whole_ne_nil _

/-- A canonical numeral with a point ends in another digit than zero. -/
theorem IsCanonical.mantissa_mod_ten (h : p.IsCanonical) (hpoint : p.fraction.isSome = true) :
    p.mantissa % 10 ≠ 0 := by
  obtain ⟨f, hf⟩ := Option.isSome_iff_exists.mp hpoint
  obtain ⟨c, hc, hne⟩ := h.fraction_last f hf
  obtain ⟨init, rfl⟩ := List.getLast?_eq_some_iff.mp hc
  have hall : p.whole ++ p.fraction.getD [] = p.whole ++ init ++ [c] := by
    rw [hf, Option.getD_some, List.append_assoc]
  have hdigit : c.isDigit = true := by
    refine h.isDigit c ?_
    rw [hall]
    exact List.mem_append_right _ List.mem_cons_self
  obtain ⟨d, hd, rfl⟩ := exists_digitChar hdigit
  rw [Ne, Nat.digitChar_eq_zero] at hne
  rw [mantissa, hall, Nat.ofDigitChars_append, Nat.ofDigitChars_cons_digitChar_of_lt_ten hd,
    Nat.ofDigitChars_nil]
  omega

/-- **A canonical numeral in fixed notation has a point exactly if it is no whole number.** -/
theorem IsCanonical.fraction_isSome_iff (h : p.IsCanonical) (hfixed : p.exponent = none) :
    p.fraction.isSome = true ↔ ¬∃ k : ℤ, p.size = k := by
  have hpower : p.power = 0 := by rw [power, hfixed]
  have hlast := h.mantissa_mod_ten
  have hfraction := h.fraction_last
  unfold size
  rw [hpower]
  cases hpoint : p.fraction with
  | none =>
    refine ⟨fun hsome => absurd hsome Bool.false_ne_true, fun hwhole => (hwhole ?_).elim⟩
    exact ⟨p.mantissa, by simp⟩
  | some f =>
    refine ⟨fun _ => ?_, fun _ => rfl⟩
    rintro ⟨k, hk⟩
    obtain ⟨c, hc, -⟩ := hfraction f hpoint
    obtain ⟨init, rfl⟩ := List.getLast?_eq_some_iff.mp hc
    -- With digits behind the point, a whole number would be a multiple of ten.
    have hmultiple : (p.mantissa : ℤ) = k * 10 ^ init.length * 10 := by
      have hscaled : (p.mantissa : ℚ) = k * 10 ^ (init ++ [c]).length := by
        rw [← hk, Option.getD_some, zero_sub, zpow_neg, zpow_natCast]
        exact (inv_mul_cancel_right₀ (pow_ne_zero _ (by norm_num)) _).symm
      rw [List.length_append, List.length_singleton, pow_succ, ← mul_assoc] at hscaled
      exact_mod_cast hscaled
    have hmod := hlast (by rw [hpoint]; rfl)
    omega

/-- In fixed notation only the digits around the point matter. -/
theorem isCanonical_fixed (negative : Bool) {whole : List Char} {fraction : Option (List Char)}
    (hdigits : ∀ c ∈ whole ++ fraction.getD [], c.isDigit = true) (hne : whole ≠ [])
    (hlast : ∀ f ∈ fraction, ∃ c ∈ f.getLast?, c ≠ '0')
    (hfirst : whole.head? = some '0' → whole = ['0'] ∧ fraction.isSome = true) :
    IsCanonical ⟨negative, whole, fraction, none⟩ where
  isDigit := hdigits
  whole_ne_nil := hne
  fraction_last := hlast
  fixed_first _ := hfirst
  mantissa_first := nofun
  exponent_isDigit := nofun
  exponent_first := nofun

theorem unsigned_fixed (negative : Bool) (whole : List Char) (fraction : Option (List Char)) :
    (Parts.mk negative whole fraction none).unsigned = whole ++ Reading.pointed fraction := by
  rw [unsigned, tail, List.append_nil]

end Parts

/-! ## The arrangements of digits -/

/-- The last digit of a number. -/
theorem getLast?_naturalDigits (n : ℕ) :
    (naturalDigits n).getLast? = some (Nat.digitChar (n % 10)) := by
  unfold naturalDigits
  by_cases hsmall : n < 10
  · rw [Nat.toDigits_of_lt_base hsmall, Nat.mod_eq_of_lt hsmall]
    rfl
  · rw [Nat.toDigits_of_base_le (by decide) (Nat.not_lt.mp hsmall), List.getLast?_concat]

section

variable {ds : List Char} (hdigits : ∀ d ∈ ds, d.isDigit = true)
  (hfirst : ∃ c ∈ ds.head?, c ≠ '0') (hlast : ∃ c ∈ ds.getLast?, c ≠ '0') (negative : Bool)

include hdigits hfirst hlast

/-- Digits without zeros at the ends give a canonical numeral in fixed notation. -/
theorem exists_positional (point : ℤ) :
    ∃ p : Parts, p.IsCanonical ∧ p.negative = negative ∧ p.exponent = none
      ∧ p.unsigned = positional [] ds point := by
  obtain ⟨c, hc, hzero⟩ := hfirst
  obtain ⟨d, hd, hend⟩ := hlast
  have hzeros (count : ℕ) : ∀ e ∈ List.replicate count '0', e.isDigit = true := by
    intro e he
    obtain rfl := List.eq_of_mem_replicate he
    rfl
  have hne : ds ≠ [] := by
    rintro rfl
    cases hc
  unfold positional
  by_cases hbefore : point ≤ 0
  · -- Behind a point and zeros: the zero in front is the single one that may stand there.
    rw [if_pos hbefore]
    refine ⟨⟨negative, ['0'], some (List.replicate (-point).toNat '0' ++ ds), none⟩,
      Parts.isCanonical_fixed negative ?_ (List.cons_ne_nil _ _) ?_ fun _ => ⟨rfl, rfl⟩,
      rfl, rfl, ?_⟩
    · simp only [Option.getD_some, List.singleton_append, List.forall_mem_cons,
        List.forall_mem_append]
      exact ⟨rfl, hzeros _, hdigits⟩
    · rintro _ ⟨⟩
      exact ⟨d, List.mem_getLast?_append_of_mem_getLast? hd, hend⟩
    · exact Parts.unsigned_fixed _ _ _
  rw [if_neg hbefore]
  by_cases hbehind : (ds.length : ℤ) ≤ point
  · -- Before zeros: there is no point, and the first digit is no zero.
    rw [if_pos hbehind, List.append_nil]
    refine ⟨⟨negative, ds ++ List.replicate (point.toNat - ds.length) '0', none, none⟩,
      Parts.isCanonical_fixed negative ?_ (List.append_ne_nil_of_left_ne_nil hne _) nofun ?_,
      rfl, rfl, ?_⟩
    · simp only [Option.getD_none, List.append_nil, List.forall_mem_append]
      exact ⟨hdigits, hzeros _⟩
    · intro hhead
      rw [List.head?_append_of_ne_nil _ hne, hc] at hhead
      exact absurd (Option.some.inj hhead) hzero
    · rw [Parts.unsigned_fixed, Reading.pointed, List.append_nil]
  · -- Around a point: the first and the last digit are on different sides of it.
    rw [if_neg hbehind]
    refine ⟨⟨negative, ds.take point.toNat, some (ds.drop point.toNat), none⟩,
      Parts.isCanonical_fixed negative ?_ ?_ ?_ ?_, rfl, rfl, ?_⟩
    · rwa [Option.getD_some, List.take_append_drop]
    · rw [Ne, List.take_eq_nil_iff, not_or]
      exact ⟨by omega, hne⟩
    · rintro _ ⟨⟩
      refine ⟨d, ?_, hend⟩
      rw [List.getLast?_drop, if_neg (by omega)]
      exact hd
    · intro hhead
      rw [List.head?_take, if_neg (by omega), hc] at hhead
      exact absurd (Option.some.inj hhead) hzero
    · exact Parts.unsigned_fixed _ _ _

/-- Digits without zeros at the ends give a canonical numeral in exponent notation, if the
exponent is not zero. -/
theorem exists_scientific {point : ℤ} (hpoint : point ≠ 1) :
    ∃ p : Parts, p.IsCanonical ∧ p.negative = negative ∧ p.exponent.isSome = true
      ∧ p.unsigned = scientific 1 ds point := by
  obtain ⟨c, hc, hzero⟩ := hfirst
  obtain ⟨d, hd, hend⟩ := hlast
  obtain ⟨rest, rfl⟩ := List.head?_eq_some_iff.mp hc
  have hwidth : 1 - (naturalDigits (point - 1).natAbs).length = 0 :=
    Nat.sub_eq_zero_of_le Nat.length_toDigits_pos
  have hexponent : ∃ c ∈ (naturalDigits (point - 1).natAbs).head?, c ≠ '0' := by
    obtain ⟨c, rest, hcons, hc⟩ := exists_naturalDigits_eq (n := (point - 1).natAbs) (by omega)
    exact ⟨c, by rw [hcons]; rfl, hc⟩
  -- There is a point only if there is a second digit.
  let fraction := if rest = [] then none else some rest
  have hfraction : fraction.getD [] = rest := by
    by_cases hrest : rest = [] <;> simp [fraction, hrest]
  refine ⟨⟨negative, [c], fraction,
      some (decide (point - 1 < 0), naturalDigits (point - 1).natAbs)⟩,
    { isDigit := ?_, whole_ne_nil := List.cons_ne_nil _ _, fraction_last := ?_,
      fixed_first := nofun, mantissa_first := fun _ => ⟨c, rfl, hzero⟩,
      exponent_isDigit := ?_, exponent_first := ?_ }, rfl, rfl, ?_⟩
  · rwa [hfraction]
  · intro f hf
    by_cases hrest : rest = []
    · simp [fraction, hrest] at hf
    · obtain rfl : rest = f := by simpa [fraction, hrest] using hf
      rw [List.getLast?_cons_of_ne_nil hrest] at hd
      exact ⟨d, hd, hend⟩
  · rintro _ ⟨⟩
    exact fun _ => isDigit_of_mem_naturalDigits
  · rintro _ ⟨⟩
    exact hexponent
  · have hsign : (if decide (point - 1 < 0) = true then '-' else '+')
        = if 0 ≤ point - 1 then '+' else '-' := by
      by_cases hnegative : 0 ≤ point - 1
      · rw [if_pos hnegative, if_neg (by simpa using hnegative)]
      · rw [if_neg hnegative, if_pos (by simpa using hnegative)]
    have hpointed : scientific 1 (c :: rest) point
        = [c] ++ (Reading.pointed fraction ++ 'e' :: exponentText 1 (point - 1)) := by
      cases rest <;> rfl
    rw [hpointed, exponentText, Parts.unsigned, Parts.tail]
    dsimp only
    rw [hwidth, hsign]
    rfl

end

/-! ## The place of the point -/

/-- **The place of the point bounds the size.** A decimal is below a power of ten exactly if
its point stands no farther behind its first digit. -/
theorem mul_zpow_lt_iff {n : ℕ} (hn : n ≠ 0) (power e : ℤ) :
    (n : ℚ) * 10 ^ power < 10 ^ e ↔ (naturalDigits n).length + power ≤ e := by
  have hten : (10 : ℚ) ≠ 0 := by norm_num
  have hpower : (0 : ℚ) < 10 ^ power := zpow_pos (by norm_num) power
  have hlength : 0 < (naturalDigits n).length := Nat.length_toDigits_pos
  rw [← lt_div_iff₀ hpower, ← zpow_sub₀ hten, ← le_sub_iff_add_le]
  generalize e - power = k
  by_cases hk : 0 < k
  · obtain ⟨k, rfl⟩ := Int.eq_ofNat_of_zero_le hk.le
    have hcount := Nat.length_toDigits_le_iff (b := 10) (n := n) (by decide) (by exact_mod_cast hk)
    rw [zpow_natCast, Nat.cast_le]
    exact Iff.trans (by exact_mod_cast Iff.rfl) hcount.symm
  · have hsmall : (10 : ℚ) ^ k ≤ 1 := zpow_le_one_of_nonpos₀ (by norm_num) (by omega)
    have hone : (1 : ℚ) ≤ n := by exact_mod_cast Nat.one_le_iff_ne_zero.mpr hn
    exact ⟨fun h => absurd (h.trans_le hsmall) (not_lt.mpr hone), fun h => by omega⟩

end Numeral

/-! ## The digits of the shortest decimal -/

/-- Without its zeros at the end, a number ends in another digit. -/
theorem Decimal.strip_mod_ten {n : ℕ} {power : ℤ} (h : (strip n power).digits ≠ 0) :
    (strip n power).digits % 10 ≠ 0 := by
  induction n using Nat.strong_induction_on generalizing power with
  | _ n ih =>
    rw [strip] at h ⊢
    by_cases hzero : n ≠ 0 ∧ n % 10 = 0
    · rw [dif_pos hzero] at h ⊢
      exact ih (n / 10) (by omega) h
    · rw [dif_neg hzero] at h ⊢
      exact fun hmod => hzero ⟨h, hmod⟩

namespace Shortest

/-- Whichever grid the search ends on, the zeros at the end are dropped. -/
theorem exists_search_eq_strip (i : Interval) (point : ℤ) (more count : ℕ) :
    ∃ k power, search i point more count = Decimal.strip k power := by
  induction more generalizing count with
  | zero => exact ⟨_, _, rfl⟩
  | succ more ih =>
    rw [search]
    split
    · exact ⟨_, _, rfl⟩
    · exact ih (count + 1)

theorem decimal_mod_ten {x : Binary64} (hx : 0 < x.magnitude) : (decimal x).digits % 10 ≠ 0 := by
  obtain ⟨k, power, hsearch⟩ :=
    exists_search_eq_strip (interval x) (pointOf (interval x).value (interval x).den) 16 1
  have hdecimal : decimal x = Decimal.strip k power := hsearch
  have hdigits := (isNearest_decimal hx).1
  rw [hdecimal] at hdigits ⊢
  exact Decimal.strip_mod_ten hdigits

/-- The sign has no part in the digits. -/
theorem decimal_eq_of_magnitude_eq {x y : Binary64} (h : x.magnitude = y.magnitude) :
    decimal x = decimal y := by
  have hsignificand : x.significand = y.significand := by rw [significand, significand, h]
  have hexponent : x.unitExponent = y.unitExponent := by rw [unitExponent, unitExponent, h]
  have hinterval : interval x = interval y := by
    rw [interval, interval, hsignificand, hexponent]
  rw [decimal, decimal, hinterval]

end Shortest

/-! ## Doubles -/

namespace Binary64

/-- The absolute value. -/
def abs (x : Binary64) : Binary64 := ofParts false x.magnitude

theorem magnitude_lt_signBit (x : Binary64) : x.magnitude < signBit :=
  Nat.mod_lt _ (by decide)

@[simp] theorem abs_magnitude (x : Binary64) : x.abs.magnitude = x.magnitude :=
  ofParts_magnitude false x.magnitude_lt_signBit

@[simp] theorem abs_negative (x : Binary64) : x.abs.negative = false :=
  ofParts_negative false x.magnitude_lt_signBit

/-- The sign of a double that is not zero is the sign of its value. -/
theorem negative_iff {x : Binary64} (hx : 0 < x.magnitude) : x.negative = true ↔ x.value < 0 := by
  have hgrid : (0 : ℚ) < gridPoint x.magnitude / 2 ^ 1074 := by
    refine div_pos ?_ (pow_pos two_pos _)
    exact_mod_cast gridPoint_zero ▸ gridPoint_strictMono hx
  rw [value_eq]
  cases x.negative
  · rw [if_neg Bool.false_ne_true]
    exact ⟨fun h => absurd h Bool.false_ne_true, fun h => absurd h hgrid.not_gt⟩
  · rw [if_pos rfl, neg_div]
    exact ⟨fun _ => neg_lt_zero.mpr hgrid, fun _ => rfl⟩

end Binary64

namespace Numeral

/-- A finite double other than zero is written with the digits of its shortest decimal. -/
theorem characters_of_finite (l : Layout) {x : Binary64} (hpos : 0 < x.magnitude)
    (hfinite : x.magnitude < infinityBits) :
    characters l x = (if x.negative then ['-'] else []) ++ ofDecimal l (Shortest.decimal x) := by
  have hnan : ¬x.isNaN = true := by
    rw [isNaN, decide_eq_true_eq]
    exact hfinite.not_gt
  have hinfinite : ¬x.isInfinite = true := by
    rw [isInfinite, beq_iff_eq]
    exact hfinite.ne
  have hzero : ¬x.isZero = true := by
    rw [isZero, beq_iff_eq]
    exact hpos.ne'
  rw [characters, if_neg hnan, if_neg hinfinite, if_neg hzero]

/-- A decimal without zeros at the end is written as a canonical numeral, in exponent notation
exactly below a millionth and from ten to the 21st on. -/
theorem exists_ofDecimal {d : Decimal} (hd : d.digits % 10 ≠ 0) (negative : Bool) :
    ∃ p : Parts, p.IsCanonical ∧ p.negative = negative ∧ p.unsigned = ofDecimal script d
      ∧ (p.exponent.isSome = true ↔
          (d.digits : ℚ) * 10 ^ d.power < 10 ^ (-6 : ℤ)
            ∨ 10 ^ (21 : ℤ) ≤ (d.digits : ℚ) * 10 ^ d.power) := by
  have hne : d.digits ≠ 0 := by
    intro hzero
    rw [hzero] at hd
    exact hd rfl
  have hfirst : ∃ c ∈ (naturalDigits d.digits).head?, c ≠ '0' := by
    obtain ⟨c, rest, hcons, hc⟩ := exists_naturalDigits_eq hne
    exact ⟨c, by rw [hcons]; rfl, hc⟩
  have hlast : ∃ c ∈ (naturalDigits d.digits).getLast?, c ≠ '0' := by
    refine ⟨_, getLast?_naturalDigits d.digits, ?_⟩
    rwa [Ne, Nat.digitChar_eq_zero]
  have hdigits : ∀ c ∈ naturalDigits d.digits, c.isDigit = true :=
    fun _ => isDigit_of_mem_naturalDigits
  have hlarge : (10 : ℚ) ^ (21 : ℤ) ≤ d.digits * 10 ^ d.power
      ↔ ¬((naturalDigits d.digits).length : ℤ) + d.power ≤ 21 := by
    rw [← mul_zpow_lt_iff hne, not_lt]
  rw [hlarge, mul_zpow_lt_iff hne]
  unfold ofDecimal
  dsimp only
  generalize ((naturalDigits d.digits).length : ℤ) + d.power = point
  by_cases hfixed : -6 < point ∧ point ≤ 21
  · obtain ⟨p, hcanonical, hsign, hexponent, hchars⟩ :=
      exists_positional hdigits hfirst hlast negative point
    refine ⟨p, hcanonical, hsign, hchars.trans (if_pos hfixed).symm, ?_⟩
    rw [hexponent]
    exact ⟨fun h => absurd h Bool.false_ne_true, fun h => by omega⟩
  · obtain ⟨p, hcanonical, hsign, hexponent, hchars⟩ :=
      exists_scientific hdigits hfirst hlast negative (show point ≠ 1 by omega)
    refine ⟨p, hcanonical, hsign, hchars.trans (if_neg hfixed).symm, ?_⟩
    exact ⟨fun _ => by omega, fun _ => hexponent⟩

/-- **Scripts print canonical numerals.** Let `D` be the value of the numeral that messages show
for the absolute value of a finite double other than zero. What scripts print for the double is
a canonical numeral with the sign of the double and the value `D` up to that sign. It is in
exponent notation exactly if `D` is below a millionth or at least ten to the 21st, and otherwise
has a point exactly if `D` is no whole number. -/
theorem scripts_print_canonical_numerals {x : Binary64} (hnan : x.isNaN = false)
    (hfinite : x.isInfinite = false) (hzero : x.isZero = false) :
    ∃ D : ℚ, (∀ q, Denotes (write message x.abs).toList q ↔ q = D)
      ∧ ∃ p : Parts, p.IsCanonical
        ∧ (write script x).toList = p.chars
        ∧ (p.negative = true ↔ x.value < 0)
        ∧ (p.exponent.isSome = true ↔ D < 10 ^ (-6 : ℤ) ∨ 10 ^ (21 : ℤ) ≤ D)
        ∧ (p.exponent = none → (p.fraction.isSome = true ↔ ¬∃ k : ℤ, D = k))
        ∧ p.value = if x.value < 0 then -D else D := by
  have hbound := magnitude_lt_infinityBits hnan hfinite
  have hpos : 0 < x.magnitude := Nat.pos_of_ne_zero (beq_eq_false_iff_ne.mp hzero)
  obtain ⟨hne, -⟩ := Shortest.isNearest_decimal hpos
  have hshown : Denotes (write message x.abs).toList
      ((Shortest.decimal x).digits * 10 ^ (Shortest.decimal x).power) := by
    have hdecimal := Shortest.decimal_eq_of_magnitude_eq x.abs_magnitude
    have hchars := characters_of_finite message (x := x.abs) (by simpa using hpos)
      (by simpa using hbound)
    rw [write, String.toList_ofList, hchars, abs_negative, hdecimal]
    exact denotes_ofDecimal (.inr rfl) hne
  obtain ⟨p, hcanonical, hsign, hunsigned, hexponent⟩ :=
    exists_ofDecimal (Shortest.decimal_mod_ten hpos) x.negative
  have hsize : p.size = (Shortest.decimal x).digits * 10 ^ (Shortest.decimal x).power := by
    refine hcanonical.denotes.unique ?_
    rw [hunsigned]
    exact denotes_ofDecimal (.inl rfl) hne
  refine ⟨p.size, fun q => ⟨fun hq => ?_, ?_⟩, p, hcanonical, ?_, ?_, ?_, ?_, ?_⟩
  · rw [hsize]
    exact hq.unique hshown
  · rintro rfl
    rwa [hsize]
  · rw [write, String.toList_ofList, characters_of_finite script hpos hbound, Parts.chars, hsign,
      hunsigned]
  · rw [hsign, negative_iff hpos]
  · rwa [hsize]
  · exact hcanonical.fraction_isSome_iff
  · rw [Parts.value, hsign]
    exact if_congr (negative_iff hpos) rfl rfl

/-- A tenth, below zero. -/
def minusTenth : Binary64 := ⟨0xBFB999999999999A⟩

theorem scripts_print_canonical_numerals_minusTenth :
    write script minusTenth = "-0.1"
      ∧ ∃ D : ℚ, (∀ q, Denotes (write message minusTenth.abs).toList q ↔ q = D)
        ∧ ∃ p : Parts, p.IsCanonical
          ∧ (write script minusTenth).toList = p.chars
          ∧ (p.negative = true ↔ minusTenth.value < 0)
          ∧ (p.exponent.isSome = true ↔ D < 10 ^ (-6 : ℤ) ∨ 10 ^ (21 : ℤ) ≤ D)
          ∧ (p.exponent = none → (p.fraction.isSome = true ↔ ¬∃ k : ℤ, D = k))
          ∧ p.value = if minusTenth.value < 0 then -D else D :=
  ⟨by decide +kernel,
    scripts_print_canonical_numerals (by decide) (by decide) (by decide)⟩

end Numeral

end CodeSmell
