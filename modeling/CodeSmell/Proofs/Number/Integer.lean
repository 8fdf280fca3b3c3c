/-
Reading an integer back from its numeral.

An integer is written with the ten digits, from the first one on and with a minus in
front where it is negative. The reader takes the digits of every script, blanks around
them and underscores between them; of all this a written integer has nothing but the
ten digits, so what the reader goes through is the fold that the digits stand for.
Integers with more digits than are converted are not read, so the limit on digits is a
condition of the main statement.
-/
import CodeSmell.Number.Numeral
import CodeSmell.Number.Reading

set_option autoImplicit false

namespace CodeSmell

/-! ## The ten digits -/

/-- A digit is one of the ten. -/
theorem exists_digitChar {c : Char} (h : c.isDigit = true) : ∃ d < 10, c = Nat.digitChar d := by
  obtain ⟨hlow, hhigh⟩ := Char.isDigit_iff_toNat.mp h
  change 48 ≤ c.toNat at hlow
  change c.toNat ≤ 57 at hhigh
  refine ⟨c.toNat - 48, by omega, ?_⟩
  rw [← Char.toNat_inj, Nat.toNat_digitChar_of_lt_ten (by omega)]
  omega

theorem radixDigit?_digitChar : ∀ d < 10, Text.radixDigit? 10 (Nat.digitChar d) = some d := by
  decide

theorem radixDigit?_of_isDigit {c : Char} (h : c.isDigit = true) :
    Text.radixDigit? 10 c = some (c.toNat - '0'.toNat) := by
  obtain ⟨d, hd, rfl⟩ := exists_digitChar h
  rw [radixDigit?_digitChar d hd]
  exact congrArg some (Nat.toNat_digitChar_sub_48_of_lt_ten hd).symm

/-- A digit is no blank, and none of the other characters that an integer is read with. -/
theorem ne_of_isDigit {c : Char} (h : c.isDigit = true) :
    Text.isNumeralBlank c = false ∧ c ≠ '_' ∧ c ≠ '-' ∧ c ≠ '+' := by
  obtain ⟨d, hd, rfl⟩ := exists_digitChar h
  revert d
  decide

theorem isDigit_of_mem_naturalDigits {c : Char} {n : Nat} (h : c ∈ naturalDigits n) :
    c.isDigit = true :=
  Nat.isDigit_of_mem_toDigits (by decide) (by decide) h

/-- An integer is written with digits and the sign. -/
theorem eq_or_isDigit_of_mem_integerText {c : Char} {n : Int} (h : c ∈ (integerText n).toList) :
    c = '-' ∨ c.isDigit = true := by
  cases n with
  | ofNat n =>
    rw [integerText, String.toList_ofList] at h
    exact .inr (isDigit_of_mem_naturalDigits h)
  | negSucc n =>
    rw [integerText, String.toList_ofList] at h
    exact (List.mem_cons.mp h).imp_right isDigit_of_mem_naturalDigits

/-- There is a first digit. -/
theorem exists_naturalDigits_eq_cons (n : Nat) :
    ∃ c rest, naturalDigits n = c :: rest ∧ c.isDigit = true := by
  obtain ⟨c, rest, hcons⟩ := List.exists_cons_of_ne_nil (Nat.toDigits_ne_nil (n := n) (b := 10))
  exact ⟨c, rest, hcons, isDigit_of_mem_naturalDigits (hcons ▸ List.mem_cons_self)⟩

/-! ## Reading -/

namespace Text

variable {p : Char → Bool} {cs : List Char}

theorem dropWhile_eq_self (h : ∀ c ∈ cs, p c = false) : cs.dropWhile p = cs := by
  cases cs with
  | nil => rfl
  | cons c rest =>
    have hc : ¬p c = true := by
      rw [h c List.mem_cons_self]
      exact Bool.false_ne_true
    rw [List.dropWhile_cons, if_neg hc]

/-- Where nothing is to be taken off, trimming changes nothing. -/
theorem trimEndWhere_eq_self (h : ∀ c ∈ cs, p c = false) : trimEndWhere p cs = cs := by
  have hreverse : cs.reverse.dropWhile p = cs.reverse :=
    dropWhile_eq_self fun c hc => h c (List.mem_reverse.mp hc)
  rw [trimEndWhere, hreverse, List.reverse_reverse]

theorem trimWhere_eq_self (h : ∀ c ∈ cs, p c = false) : trimWhere p cs = cs := by
  rw [trimWhere, dropWhile_eq_self h, trimEndWhere_eq_self h]

end Text

namespace Reading

/-- Digits are read as the number that they stand for, whatever was read before them. -/
theorem scanDigits_eq {cs : List Char} (h : ∀ c ∈ cs, c.isDigit = true) (value count : Nat) :
    scanDigits 10 false value count cs
      = some (Nat.ofDigitChars 10 cs value, count + cs.length, []) := by
  induction cs generalizing value count with
  | nil => rfl
  | cons c rest ih =>
    obtain ⟨hc, hrest⟩ := List.forall_mem_cons.mp h
    obtain ⟨-, hunderscore, -, -⟩ := ne_of_isDigit hc
    rw [scanDigits, if_neg hunderscore, radixDigit?_of_isDigit hc]
    change scanDigits 10 false (value * 10 + (c.toNat - '0'.toNat)) (count + 1) rest = _
    rw [ih hrest, Nat.ofDigitChars_cons, Nat.mul_comm value 10, List.length_cons,
      Nat.add_assoc, Nat.add_comm 1]

/-- The digits of a natural number are read as that number. -/
theorem digits_naturalDigits {n : Nat} (h : (naturalDigits n).length ≤ digitLimit)
    (failure : NumeralError) : digits 10 (naturalDigits n) failure = .ok n := by
  have hdigits : ∀ c ∈ naturalDigits n, c.isDigit = true :=
    fun _ => isDigit_of_mem_naturalDigits
  have hvalue : Nat.ofDigitChars 10 (naturalDigits n) 0 = n := Nat.ofDigitChars_ten_toDigits
  have hscan : scanDigits 10 true 0 0 (naturalDigits n)
      = some (n, (naturalDigits n).length, []) := by
    -- The first digit is there, so nothing is asked of what stands in front of it.
    have hfirst : scanDigits 10 true 0 0 (naturalDigits n)
        = scanDigits 10 false 0 0 (naturalDigits n) := by
      obtain ⟨c, rest, hcons, hc⟩ := exists_naturalDigits_eq_cons n
      obtain ⟨-, hunderscore, -, -⟩ := ne_of_isDigit hc
      rw [hcons, scanDigits, scanDigits, if_neg hunderscore, if_neg hunderscore,
        radixDigit?_of_isDigit hc]
    rw [hfirst, scanDigits_eq hdigits, hvalue, Nat.zero_add]
  have hlimit : ¬(True ∧ digitLimit < (naturalDigits n).length) := by
    rintro ⟨-, hmore⟩
    exact Nat.not_lt.mpr h hmore
  simp only [digits, hscan]
  rw [if_neg hlimit]
  rfl

/-- An integer is read back from its numeral. -/
theorem integer_integerText {n : Int} (h : (naturalDigits n.natAbs).length ≤ digitLimit) :
    integer (integerText n) = .ok n := by
  have hplain : Text.trimWhere Text.isNumeralBlank (integerText n).toList
      = (integerText n).toList := by
    apply Text.trimWhere_eq_self
    intro c hc
    rcases eq_or_isDigit_of_mem_integerText hc with rfl | hdigit
    · decide
    · exact (ne_of_isDigit hdigit).1
  rw [integer, hplain]
  cases n with
  | ofNat n =>
    have hsign : sign (naturalDigits n) = (false, naturalDigits n) := by
      obtain ⟨c, rest, hcons, hc⟩ := exists_naturalDigits_eq_cons n
      obtain ⟨-, -, hminus, hplus⟩ := ne_of_isDigit hc
      rw [hcons, sign]
      · exact fun _ h => hminus (List.head_eq_of_cons_eq h)
      · exact fun _ h => hplus (List.head_eq_of_cons_eq h)
    have hvalue (failure : NumeralError) : digits 10 (naturalDigits n) failure = .ok n :=
      digits_naturalDigits h failure
    rw [integerText, String.toList_ofList, hsign]
    dsimp only
    rw [hvalue]
    rfl
  | negSucc n =>
    have hvalue (failure : NumeralError) : digits 10 (naturalDigits (n + 1)) failure = .ok (n + 1) :=
      digits_naturalDigits h failure
    rw [integerText, String.toList_ofList, sign]
    dsimp only
    rw [hvalue]
    rfl

end Reading

end CodeSmell
