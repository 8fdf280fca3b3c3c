/-
Texts that denote a number.

A text denotes a number if it is a plain decimal without a sign, is not in the spelling of
old, and its parts have the value of the number. Main statement: the literal reader takes
such a text to the double that the number is rounded to, whether separators stand in it or a
sign stands before it.
-/
import CodeSmell.Proofs.Number.Decimal
import CodeSmell.Proofs.Number.Rounding

set_option autoImplicit false

namespace CodeSmell

open Binary64

/-- A text without a sign is read as a plain decimal of a value. -/
structure Denotes (cs : List Char) (q : ℚ) : Prop where
  plain : ∀ c ∈ cs, Reading.isPlain c = true
  unsigned : ∀ c ∈ cs.head?, c ≠ '-' ∧ c ≠ '+'
  notLed : Reading.isZeroLed cs = false
  parts : ∃ digits power, Reading.decimalParts? cs = some (digits, power)
    ∧ (digits : ℚ) * 10 ^ power = q

namespace Denotes

variable {q : ℚ}

/-- The parts of a decimal denote the digits scaled by the exponent and the length of the
fraction. -/
theorem of_parts {whole tail : List Char} {fraction : Option (List Char)} {e : ℤ}
    (hwhole : ∀ c ∈ whole, c.isDigit = true)
    (hfraction : ∀ c ∈ fraction.getD [], c.isDigit = true)
    (hne : whole ++ fraction.getD [] ≠ [])
    (htail : Reading.exponent? tail = some e) (hplain : ∀ c ∈ tail, Reading.isPlain c = true)
    (hled : Reading.isZeroLed (whole ++ (Reading.pointed fraction ++ tail)) = false)
    (hvalue : (Nat.ofDigitChars 10 (whole ++ fraction.getD []) 0 : ℚ)
      * 10 ^ (e - (fraction.getD []).length) = q) :
    Denotes (whole ++ (Reading.pointed fraction ++ tail)) q where
  plain := Reading.isPlain_of_mem_parts hwhole hfraction hplain
  unsigned := Reading.head?_of_parts hwhole hne
  notLed := hled
  parts := ⟨_, _, Reading.decimalParts?_eq hwhole hfraction hne htail, hvalue⟩

section

variable {cs : List Char} (h : Denotes cs q)

include h

/-- What denotes a number is read as what a decimal of its value is rounded to, with the sign
that stands before it. -/
theorem exists_literal_eq {text : String} {negative : Bool}
    (htext : text.toList.filter (· ≠ '_') = (if negative then ['-'] else []) ++ cs) :
    ∃ (digits : ℕ) (power : ℤ), (digits : ℚ) * 10 ^ power = q
      ∧ Reading.literal text = .ok (ofDecimal negative digits power) := by
  obtain ⟨digits, power, hparts, hvalue⟩ := h.parts
  have hplain : ∀ c ∈ (if negative then ['-'] else []) ++ cs, Reading.isPlain c = true := by
    intro c hc
    rcases List.mem_append.mp hc with hsign | hc
    · cases negative
      · cases hsign
      · obtain rfl := List.mem_singleton.mp hsign
        rfl
    · exact h.plain c hc
  have hled : Reading.isZeroLed ((if negative then ['-'] else []) ++ cs) = false := by
    cases negative
    · exact h.notLed
    · exact Reading.isZeroLed_eq_false ⟨'-', List.mem_cons_self, by decide⟩
  have hsign : Reading.sign ((if negative then ['-'] else []) ++ cs) = (negative, cs) := by
    cases negative
    · exact Reading.sign_eq_self h.unsigned
    · rfl
  have hbody : ∀ c ∈ cs, c ∈ (if negative then ['-'] else []) ++ cs :=
    fun _ hc => List.mem_append_right _ hc
  exact ⟨digits, power, hvalue, Reading.literal_eq_ofDecimal htext hplain hled hsign hbody hparts⟩

/-- With separators in it, it is read as the double that the number is rounded to. -/
theorem literal_of_isRounding {text : String} {x : Binary64}
    (htext : text.toList.filter (· ≠ '_') = cs) (hx : IsRounding q x) :
    Reading.literal text = .ok x := by
  have hunsigned : text.toList.filter (· ≠ '_') = (if false then ['-'] else []) ++ cs := htext
  obtain ⟨digits, power, rfl, hread⟩ := h.exists_literal_eq hunsigned
  rw [hread, hx.unique (isRounding_ofDecimal digits power)]

/-- With a sign before it, it is read as the double at the nearest place. -/
theorem literal_of_isNearest {m : ℕ} (hm : IsNearest (q * 2 ^ 1074) m) (negative : Bool) :
    Reading.literal (String.ofList ((if negative then ['-'] else []) ++ cs))
      = .ok (ofParts negative (min m infinityBits)) := by
  have htext : (String.ofList ((if negative then ['-'] else []) ++ cs)).toList.filter (· ≠ '_')
      = (if negative then ['-'] else []) ++ cs := by
    rw [String.toList_ofList, List.filter_eq_self]
    intro c hc
    rcases List.mem_append.mp hc with hsign | hc
    · cases negative
      · cases hsign
      · obtain rfl := List.mem_singleton.mp hsign
        rfl
    · exact decide_eq_true (Reading.ne_of_isPlain (h.plain c hc)).2.1
  obtain ⟨digits, power, rfl, hread⟩ := h.exists_literal_eq htext
  rw [hread, ofDecimal_eq negative hm]

end

end Denotes

end CodeSmell
