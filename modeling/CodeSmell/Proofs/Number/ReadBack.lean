/-
Reading back what is written.

A script's numeral arranges the digits of the shortest decimal in one of four ways: behind a
point and zeros, before zeros, around a point, or with an exponent. Each of them is a plain
decimal with the value of the digits, and none of them is in the spelling of old: where there
is neither a point nor an exponent, the first digit is not a zero. So the literal reader takes
it to the double that the decimal is rounded to, which is the double that was written.

Main statement (`literal_write`): a numeral is read as the double that it was written for; a
zero comes back without its sign.
-/
import CodeSmell.Number.Numeral
import CodeSmell.Proofs.Number.Denotation
import CodeSmell.Proofs.Number.Shortest

set_option autoImplicit false

namespace CodeSmell

open Binary64

/-! ## Numerals -/

namespace Numeral

theorem ofDigitChars_naturalDigits (n : ℕ) : Nat.ofDigitChars 10 (naturalDigits n) 0 = n :=
  Nat.ofDigitChars_ten_toDigits

/-- Zeros in front of digits do not count. -/
theorem ofDigitChars_zeros_append (count : ℕ) (cs : List Char) :
    Nat.ofDigitChars 10 (List.replicate count '0' ++ cs) 0 = Nat.ofDigitChars 10 cs 0 := by
  rw [Nat.ofDigitChars_append, Nat.ofDigitChars_replicate_zero, Nat.mul_zero]

/-- Zeros behind digits are powers of ten. -/
theorem ofDigitChars_append_zeros (count : ℕ) (cs : List Char) :
    Nat.ofDigitChars 10 (cs ++ List.replicate count '0') 0
      = Nat.ofDigitChars 10 cs 0 * 10 ^ count := by
  rw [Nat.ofDigitChars_append, Nat.ofDigitChars_replicate_zero, Nat.mul_comm]

/-- A number other than zero has no zero as its first digit. -/
theorem exists_naturalDigits_eq {n : ℕ} (h : n ≠ 0) :
    ∃ c rest, naturalDigits n = c :: rest ∧ c ≠ '0' := by
  induction n using Nat.strong_induction_on with
  | _ n ih =>
    by_cases hsmall : n < 10
    · refine ⟨Nat.digitChar n, [], Nat.toDigits_of_lt_base hsmall, ?_⟩
      rwa [Ne, Nat.digitChar_eq_zero]
    · obtain ⟨c, rest, hdigits, hc⟩ := ih (n / 10) (by omega) (by omega)
      refine ⟨c, rest ++ [Nat.digitChar (n % 10)], ?_, hc⟩
      rw [naturalDigits, Nat.toDigits_of_base_le (by decide) (Nat.not_lt.mp hsmall)]
      change naturalDigits (n / 10) ++ _ = _
      rw [hdigits, List.cons_append]

/-- An exponent is read as what was written. -/
theorem exponent?_exponentText (width : ℕ) (e : ℤ) :
    Reading.exponent? ('e' :: exponentText width e) = some e := by
  have hdigits : ∀ c ∈ List.replicate (width - (naturalDigits e.natAbs).length) '0'
      ++ naturalDigits e.natAbs, c.isDigit = true := by
    intro c hc
    rcases List.mem_append.mp hc with h | h
    · obtain rfl := List.eq_of_mem_replicate h
      rfl
    · exact isDigit_of_mem_naturalDigits h
  have hne : List.replicate (width - (naturalDigits e.natAbs).length) '0'
      ++ naturalDigits e.natAbs ≠ [] :=
    List.append_ne_nil_of_right_ne_nil _ Nat.toDigits_ne_nil
  have hsign : Reading.sign (exponentText width e)
      = (decide (e < 0), List.replicate (width - (naturalDigits e.natAbs).length) '0'
          ++ naturalDigits e.natAbs) := by
    unfold exponentText
    by_cases he : 0 ≤ e
    · rw [if_pos he, decide_eq_false (not_lt.mpr he)]
      rfl
    · rw [if_neg he, decide_eq_true (not_le.mp he)]
      rfl
  rw [Reading.exponent?_cons (.inl rfl) hsign hne hdigits, ofDigitChars_zeros_append,
    ofDigitChars_naturalDigits]
  congr 1
  by_cases he : e < 0
  · rw [decide_eq_true he, if_pos rfl]
    omega
  · rw [decide_eq_false he, if_neg Bool.false_ne_true]
    omega

theorem isPlain_of_mem_exponentText {width : ℕ} {e : ℤ} {c : Char}
    (h : c ∈ 'e' :: exponentText width e) : Reading.isPlain c = true := by
  rcases List.mem_cons.mp h with rfl | h
  · rfl
  rcases List.mem_cons.mp h with rfl | h
  · split <;> rfl
  rcases List.mem_append.mp h with h | h
  · obtain rfl := List.eq_of_mem_replicate h
    rfl
  · exact Reading.isPlain_of_isDigit (isDigit_of_mem_naturalDigits h)

section

variable {n : ℕ} {ds : List Char} (hdigits : ∀ d ∈ ds, d.isDigit = true)
  (hvalue : Nat.ofDigitChars 10 ds 0 = n)

include hdigits hvalue

/-- Digits behind a point and zeros. -/
theorem denotes_behind_point {count : ℕ} {power : ℤ}
    (hpower : (count : ℤ) + ds.length + power = 0) :
    Denotes ('0' :: '.' :: (List.replicate count '0' ++ ds)) (n * 10 ^ power) := by
  have hfraction : ∀ d ∈ List.replicate count '0' ++ ds, d.isDigit = true := by
    intro d hd
    rcases List.mem_append.mp hd with h | h
    · obtain rfl := List.eq_of_mem_replicate h
      rfl
    · exact hdigits d h
  have hnumber : Nat.ofDigitChars 10 (['0'] ++ (List.replicate count '0' ++ ds)) 0 = n := by
    rw [← hvalue]
    exact (ofDigitChars_zeros_append 1 _).trans (ofDigitChars_zeros_append count ds)
  have hlength : (0 : ℤ) - (List.replicate count '0' ++ ds).length = power := by
    rw [List.length_append, List.length_replicate]
    omega
  have h : Denotes (['0'] ++ (Reading.pointed (some (List.replicate count '0' ++ ds)) ++ []))
      (n * 10 ^ power) := by
    refine .of_parts (by simp) hfraction (List.cons_ne_nil _ _) rfl (by simp) ?_ ?_
    · exact Reading.isZeroLed_eq_false ⟨'.', by simp [Reading.pointed], by decide⟩
    · rw [Option.getD_some, hnumber, hlength]
  rwa [List.append_nil] at h

/-- Digits before zeros, and a point with one more zero at most. They are not in the spelling of
old, since the first one is no zero. -/
theorem denotes_before_zeros (hfirst : ∃ c rest, ds = c :: rest ∧ c ≠ '0') (count : ℕ)
    {tail : List Char} (htail : tail = [] ∨ tail = ['.', '0']) :
    Denotes (ds ++ List.replicate count '0' ++ tail) (n * 10 ^ (count : ℤ)) := by
  have hwhole : ∀ d ∈ ds ++ List.replicate count '0', d.isDigit = true := by
    intro d hd
    rcases List.mem_append.mp hd with h | h
    · exact hdigits d h
    · obtain rfl := List.eq_of_mem_replicate h
      rfl
  have hvalue' : Nat.ofDigitChars 10 (ds ++ List.replicate count '0') 0 = n * 10 ^ count := by
    rw [ofDigitChars_append_zeros, hvalue]
  obtain ⟨c, rest, hcons, hc⟩ := hfirst
  have hne (fraction : List Char) : ds ++ List.replicate count '0' ++ fraction ≠ [] := by
    rw [hcons]
    exact List.cons_ne_nil _ _
  have hled (more : List Char) :
      Reading.isZeroLed (ds ++ List.replicate count '0' ++ more) = false := by
    rw [hcons]
    exact Reading.isZeroLed_cons_of_ne hc _
  rcases htail with rfl | rfl
  · have h : Denotes ((ds ++ List.replicate count '0') ++ (Reading.pointed none ++ []))
        (n * 10 ^ (count : ℤ)) := by
      refine .of_parts hwhole (by simp) (hne _) rfl (by simp) (hled _) ?_
      rw [Option.getD_none, List.append_nil, hvalue']
      simp
    exact h
  · have h : Denotes ((ds ++ List.replicate count '0') ++ (Reading.pointed (some ['0']) ++ []))
        (n * 10 ^ (count : ℤ)) := by
      refine .of_parts hwhole (by simp) (hne _) rfl (by simp) (hled _) ?_
      have hzero : Nat.ofDigitChars 10 (ds ++ List.replicate count '0' ++ ['0']) 0
          = n * 10 ^ count * 10 := by
        rw [← hvalue']
        exact ofDigitChars_append_zeros 1 _
      rw [Option.getD_some, hzero]
      simp
    exact h

/-- Digits around a point. -/
theorem denotes_around_point (hne : ds ≠ []) {place : ℕ} {power : ℤ}
    (hpower : ((ds.drop place).length : ℤ) + power = 0) :
    Denotes (ds.take place ++ '.' :: ds.drop place) (n * 10 ^ power) := by
  have hlength : (0 : ℤ) - (ds.drop place).length = power := by omega
  have h : Denotes (ds.take place ++ (Reading.pointed (some (ds.drop place)) ++ []))
      (n * 10 ^ power) := by
    refine .of_parts (fun d hd => hdigits d (List.mem_of_mem_take hd))
      (fun d hd => hdigits d (List.mem_of_mem_drop hd)) ?_ rfl (by simp) ?_ ?_
    · rwa [Option.getD_some, List.take_append_drop]
    · exact Reading.isZeroLed_eq_false ⟨'.', by simp [Reading.pointed], by decide⟩
    · rw [Option.getD_some, List.take_append_drop, hvalue, hlength]
  rwa [List.append_nil] at h

end

section

variable {n : ℕ} {power : ℤ}

/-- Positional notation denotes the digits with the point at their place. -/
theorem denotes_positional {tail : List Char} (htail : tail = [] ∨ tail = ['.', '0'])
    (hn : n ≠ 0) :
    Denotes (positional tail (naturalDigits n) ((naturalDigits n).length + power))
      (n * 10 ^ power) := by
  have hdigits : ∀ c ∈ naturalDigits n, c.isDigit = true := fun _ => isDigit_of_mem_naturalDigits
  have hvalue := ofDigitChars_naturalDigits n
  have hne : naturalDigits n ≠ [] := Nat.toDigits_ne_nil
  have hfirst := exists_naturalDigits_eq hn
  generalize naturalDigits n = ds at *
  unfold positional
  by_cases hbefore : (ds.length : ℤ) + power ≤ 0
  · rw [if_pos hbefore]
    exact denotes_behind_point hdigits hvalue (by omega)
  rw [if_neg hbefore]
  by_cases hbehind : (ds.length : ℤ) ≤ ds.length + power
  · obtain ⟨count, rfl⟩ : ∃ count : ℕ, power = count := ⟨power.toNat, by omega⟩
    have hcount : ((ds.length : ℤ) + count).toNat - ds.length = count := by omega
    rw [if_pos hbehind, hcount]
    exact denotes_before_zeros hdigits hvalue hfirst count htail
  · rw [if_neg hbehind]
    refine denotes_around_point hdigits hvalue hne ?_
    rw [List.length_drop]
    omega

/-- Exponent notation denotes the digits with the point at their place. -/
theorem denotes_scientific (width : ℕ) (hn : n ≠ 0) :
    Denotes (scientific width (naturalDigits n) ((naturalDigits n).length + power))
      (n * 10 ^ power) := by
  have hdigits : ∀ c ∈ naturalDigits n, c.isDigit = true := fun _ => isDigit_of_mem_naturalDigits
  have hvalue := ofDigitChars_naturalDigits n
  obtain ⟨c, rest, hcons, hc⟩ := exists_naturalDigits_eq hn
  obtain ⟨e, he⟩ : ∃ e, ((naturalDigits n).length : ℤ) + power - 1 = e := ⟨_, rfl⟩
  obtain ⟨tail, htail⟩ : ∃ tail, 'e' :: exponentText width e = tail := ⟨_, rfl⟩
  have hexponent : Reading.exponent? tail = some e := htail ▸ exponent?_exponentText width e
  have hplain : ∀ d ∈ tail, Reading.isPlain d = true :=
    fun _ hd => isPlain_of_mem_exponentText (htail ▸ hd)
  unfold scientific
  rw [he, htail]
  rw [hcons] at hdigits hvalue he ⊢
  obtain ⟨hfirst, hrest⟩ := List.forall_mem_cons.mp hdigits
  have hwhole : ∀ d ∈ [c], d.isDigit = true := List.forall_mem_singleton.mpr hfirst
  cases rest with
  | nil =>
    have hpower : e - (0 : ℕ) = power := by
      rw [List.length_singleton] at he
      omega
    have h : Denotes ([c] ++ (Reading.pointed none ++ tail)) (n * 10 ^ power) := by
      refine .of_parts hwhole (by simp) (List.cons_ne_nil _ _) hexponent hplain
        (Reading.isZeroLed_cons_of_ne hc _) ?_
      rw [Option.getD_none, List.append_nil, hvalue, List.length_nil, hpower]
    exact h
  | cons d more =>
    have hpower : e - (d :: more).length = power := by
      rw [List.length_cons] at he
      omega
    have h : Denotes ([c] ++ (Reading.pointed (some (d :: more)) ++ tail)) (n * 10 ^ power) := by
      refine .of_parts hwhole hrest (List.cons_ne_nil _ _) hexponent hplain
        (Reading.isZeroLed_cons_of_ne hc _) ?_
      rw [Option.getD_some, List.singleton_append, hvalue, hpower]
    exact h

end

/-- Whichever the layout, if it adds a point and a zero to whole numbers at most, a decimal is
written as a text that denotes it. -/
theorem denotes_ofDecimal {l : Layout} (hl : l.wholeTail = [] ∨ l.wholeTail = ['.', '0'])
    {d : Decimal} (hd : d.digits ≠ 0) : Denotes (ofDecimal l d) (d.digits * 10 ^ d.power) := by
  unfold ofDecimal
  dsimp only
  split
  · exact denotes_positional hl hd
  · exact denotes_scientific _ hd

end Numeral

/-! ## Doubles -/

namespace Binary64

/-- A double that is neither infinite nor no number is at a place before infinity. -/
theorem magnitude_lt_infinityBits {x : Binary64} (hnan : x.isNaN = false)
    (hfinite : x.isInfinite = false) : x.magnitude < infinityBits := by
  have hle : x.magnitude ≤ infinityBits := not_lt.mp (of_decide_eq_false hnan)
  have hne : x.magnitude ≠ infinityBits := beq_eq_false_iff_ne.mp hfinite
  omega

/-- The number itself, but zero without its sign. -/
def unsignedZero (x : Binary64) : Binary64 := if x.isZero then zero false else x

theorem sameNumber_unsignedZero {x : Binary64} (h : x.isNaN = false) :
    x.unsignedZero.sameNumber x = true := by
  unfold unsignedZero
  by_cases hzero : x.isZero = true
  · rw [if_pos hzero]
    exact sameNumber_iff.mpr ⟨by decide, h, .inr ⟨by decide, hzero⟩⟩
  · rw [if_neg hzero]
    exact sameNumber_refl h

theorem ofParts_eq_self {x : Binary64} (h : x.magnitude < signBit) :
    ofParts x.negative x.magnitude = x :=
  eq_of_parts_eq (ofParts_negative _ h) (ofParts_magnitude _ h)

end Binary64

namespace Reading

/-- **Numerals read back.** The numeral of a double, as scripts print it, is read as that
double; a zero comes back without its sign. -/
theorem literal_write {x : Binary64} (hx : x.isNaN = false) :
    literal (Numeral.write Numeral.script x) = .ok x.unsignedZero := by
  have hnan : ¬x.isNaN = true := Bool.eq_false_iff.mp hx
  rw [Numeral.write, Numeral.characters, if_neg hnan, unsignedZero]
  by_cases hinfinite : x.isInfinite = true
  · have hmagnitude : x.magnitude = infinityBits := beq_iff_eq.mp hinfinite
    have hzero : ¬x.isZero = true := by
      rw [isZero, hmagnitude]
      decide
    have hread (negative : Bool) :
        literal (String.ofList ((if negative then ['-'] else []) ++ Numeral.script.infinity))
          = .ok (infinity negative) := by
      cases negative <;> decide +kernel
    rw [if_pos hinfinite, if_neg hzero, hread, infinity, ← hmagnitude,
      ofParts_eq_self (hmagnitude ▸ infinityBits_lt_signBit)]
  rw [if_neg hinfinite]
  by_cases hzero : x.isZero = true
  · have hread : literal (String.ofList ['0']) = .ok (zero false) := by
      decide +kernel
    rw [if_pos hzero, if_pos hzero]
    exact hread
  · have hfinite : x.magnitude < infinityBits :=
      magnitude_lt_infinityBits hx (Bool.eq_false_iff.mpr hinfinite)
    have hpos : 0 < x.magnitude :=
      Nat.pos_of_ne_zero fun hnone => hzero (beq_iff_eq.mpr hnone)
    obtain ⟨hdigits, hnear⟩ := Shortest.isNearest_decimal hpos
    rw [if_neg hzero, if_neg hzero,
      (Numeral.denotes_ofDecimal (.inl rfl) hdigits).literal_of_isNearest hnear,
      Nat.min_eq_left hfinite.le, ofParts_eq_self (hfinite.trans infinityBits_lt_signBit)]

end Reading

end CodeSmell
