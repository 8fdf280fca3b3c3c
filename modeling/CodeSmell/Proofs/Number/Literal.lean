/-
Number literals of the language.

The grammar of number literals, big integers apart, is given here as data: with each way of
writing a number come its characters and the rational number that it stands for. A literal
has a radix that a letter announces, or it is a decimal with a point, an exponent, both or
neither, or it is a zero and octal digits in the spelling of old. Between digits there may
be single separators, except where a zero is followed by more digits.
-/
import CodeSmell.Proofs.Number.Decimal
import Mathlib.Algebra.Order.Field.Rat
import Mathlib.Tactic.Ring

set_option autoImplicit false

namespace CodeSmell

/-! ## The grammar -/

/-- A digit of a radix up to sixteen, and whether a letter that stands for it is a capital. -/
structure LiteralDigit (radix : Nat) where
  value : Fin radix
  capital : Bool

/-- One digit or more; before each but the first there may be a separator. -/
structure DigitRun (radix : Nat) where
  first : LiteralDigit radix
  rest : List (Bool × LiteralDigit radix)

/-- A radix that is announced by a letter after a zero. -/
inductive LiteralBase where
  | hexadecimal
  | octal
  | binary

/-- The radix of a base. -/
def LiteralBase.radix : LiteralBase → Nat
  | hexadecimal => 16
  | octal => 8
  | binary => 2

instance (base : LiteralBase) : NeZero base.radix := ⟨by cases base <;> decide⟩

/-- What stands before the point of a decimal literal. A zero is followed by more digits only
in the spelling of old, which has no separators, and where an eight or a nine tells a decimal
from an octal. -/
inductive WholePart where
  | zero
  | plain (run : DigitRun 10) (first_ne_zero : (run.first.value : Nat) ≠ 0)
  | zeroLed (digits : List (LiteralDigit 10)) (not_octal : ∃ d ∈ digits, 8 ≤ (d.value : Nat))

/-- The sign of an exponent. -/
inductive ExponentSign where
  | unsigned
  | plus
  | minus
  deriving DecidableEq

/-- An exponent. -/
structure ExponentPart where
  capital : Bool
  sign : ExponentSign
  run : DigitRun 10

/-- A number literal. After the point of a decimal one there may be no digits, if there are
some before it. -/
inductive NumberLiteral where
  | based (base : LiteralBase) (capital : Bool) (run : DigitRun base.radix)
  | zeroOctal (digits : List (LiteralDigit 8)) (ne_nil : digits ≠ [])
  | decimal (whole : WholePart) (fraction : Option (Option (DigitRun 10)))
      (exponent : Option ExponentPart)
  | pointLed (run : DigitRun 10) (exponent : Option ExponentPart)

/-! ## Characters -/

namespace LiteralDigit

/-- The character that a digit is written with; only letters can be capital. -/
def spelling (value : Nat) (capital : Bool) : Char :=
  if capital then (Nat.digitChar value).toUpper else Nat.digitChar value

variable {radix : Nat}

def char (d : LiteralDigit radix) : Char := spelling d.value d.capital

/-- The characters of a list of digits. -/
def chars (ds : List (LiteralDigit radix)) : List Char := ds.map char

end LiteralDigit

namespace DigitRun

variable {radix : Nat}

/-- The digits without separators. -/
def digits (r : DigitRun radix) : List (LiteralDigit radix) := r.first :: r.rest.map (·.2)

/-- A digit with the separator before it. -/
def separated (x : Bool × LiteralDigit radix) : List Char :=
  if x.1 then ['_', x.2.char] else [x.2.char]

def chars (r : DigitRun radix) : List Char := r.first.char :: r.rest.flatMap separated

end DigitRun

/-- The letter that announces a base. -/
def LiteralBase.letter (base : LiteralBase) (capital : Bool) : Char :=
  match base with
  | hexadecimal => if capital then 'X' else 'x'
  | octal => if capital then 'O' else 'o'
  | binary => if capital then 'B' else 'b'

/-- The digits before the point, without separators. -/
def WholePart.digits : WholePart → List (LiteralDigit 10)
  | zero => [⟨0, false⟩]
  | plain run _ => run.digits
  | zeroLed digits _ => ⟨0, false⟩ :: digits

def WholePart.chars : WholePart → List Char
  | zero => ['0']
  | plain run _ => run.chars
  | zeroLed digits _ => '0' :: LiteralDigit.chars digits

def ExponentSign.chars : ExponentSign → List Char
  | unsigned => []
  | plus => ['+']
  | minus => ['-']

/-- The letter of an exponent. -/
def ExponentPart.letter (e : ExponentPart) : Char := if e.capital then 'E' else 'e'

def ExponentPart.chars (e : ExponentPart) : List Char :=
  e.letter :: (e.sign.chars ++ e.run.chars)

namespace NumberLiteral

/-- A point with the digits after it, or nothing. -/
def fractionChars : Option (Option (DigitRun 10)) → List Char
  | none => []
  | some none => ['.']
  | some (some run) => '.' :: run.chars

/-- An exponent, or nothing. -/
def exponentChars : Option ExponentPart → List Char
  | none => []
  | some e => e.chars

def chars : NumberLiteral → List Char
  | based base capital run => '0' :: base.letter capital :: run.chars
  | zeroOctal digits _ => '0' :: LiteralDigit.chars digits
  | decimal whole fraction exponent =>
    whole.chars ++ (fractionChars fraction ++ exponentChars exponent)
  | pointLed run exponent => '.' :: (run.chars ++ exponentChars exponent)

/-- The text of a literal. -/
def text (l : NumberLiteral) : String := String.ofList l.chars

end NumberLiteral

/-! ## Values -/

/-- The natural number that digits stand for. -/
def LiteralDigit.number {radix : Nat} (ds : List (LiteralDigit radix)) : Nat :=
  ds.foldl (fun n d => n * radix + d.value) 0

/-- The digits after the point, if there is one. -/
def NumberLiteral.fractionDigits (fraction : Option (Option (DigitRun 10))) :
    Option (List (LiteralDigit 10)) :=
  fraction.map fun run => run.elim [] DigitRun.digits

/-- The value of an exponent. -/
def ExponentPart.value (e : ExponentPart) : Int :=
  if e.sign = .minus then -(LiteralDigit.number e.run.digits : Int)
  else LiteralDigit.number e.run.digits

namespace NumberLiteral

/-- The value of an exponent, zero where there is none. -/
def exponentValue : Option ExponentPart → Int
  | none => 0
  | some e => e.value

/-- The value of a decimal: the number before the point and the one after it, which counts
as many times less as it has digits, scaled by the exponent. -/
def decimalValue (whole fraction : List (LiteralDigit 10)) (exponent : Option ExponentPart) : ℚ :=
  (LiteralDigit.number whole + LiteralDigit.number fraction / 10 ^ fraction.length)
    * 10 ^ exponentValue exponent

/-- The value of a literal. -/
def value : NumberLiteral → ℚ
  | based _ _ run => LiteralDigit.number run.digits
  | zeroOctal digits _ => LiteralDigit.number digits
  | decimal whole fraction exponent =>
    decimalValue whole.digits ((fractionDigits fraction).getD []) exponent
  | pointLed run exponent => decimalValue [] run.digits exponent

end NumberLiteral

/-! ## Digits -/

namespace LiteralDigit

/-- A digit is no separator and no blank, and not the mark of big integers. -/
theorem spelling_ne : ∀ value < 16, ∀ capital : Bool,
    spelling value capital ≠ '_' ∧ spelling value capital ≠ 'n'
      ∧ Text.isNumeralBlank (spelling value capital) = false := by
  decide

theorem spelling_of_lt_ten : ∀ value < 10, ∀ capital : Bool,
    spelling value capital = Nat.digitChar value := by
  decide

variable {radix : Nat}

theorem char_ne (hradix : radix ≤ 16) (d : LiteralDigit radix) :
    d.char ≠ '_' ∧ d.char ≠ 'n' ∧ Text.isNumeralBlank d.char = false :=
  spelling_ne d.value (d.value.isLt.trans_le hradix) d.capital

/-- The digits up to nine are the ten digits. -/
theorem char_eq_digitChar (hradix : radix ≤ 10) (d : LiteralDigit radix) :
    d.char = Nat.digitChar d.value :=
  spelling_of_lt_ten d.value (d.value.isLt.trans_le hradix) d.capital

theorem char_ne_zero {d : LiteralDigit 10} (h : (d.value : Nat) ≠ 0) : d.char ≠ '0' := by
  rw [char_eq_digitChar le_rfl, Ne, Nat.digitChar_eq_zero]
  exact h

theorem isDigit_char (hradix : radix ≤ 10) (d : LiteralDigit radix) : d.char.isDigit = true := by
  rw [char_eq_digitChar hradix, Nat.isDigit_digitChar]
  exact decide_eq_true (d.value.isLt.trans_le hradix)

theorem isDigit_of_mem_chars (hradix : radix ≤ 10) {ds : List (LiteralDigit radix)} {c : Char}
    (h : c ∈ chars ds) : c.isDigit = true := by
  obtain ⟨d, -, rfl⟩ := List.mem_map.mp h
  exact isDigit_char hradix d

@[simp] theorem number_nil : number ([] : List (LiteralDigit radix)) = 0 := rfl

/-- Each further digit moves what stands before it by one place. -/
theorem foldl_number (ds : List (LiteralDigit radix)) (start : Nat) :
    ds.foldl (fun n d => n * radix + d.value) start
      = start * radix ^ ds.length + number ds := by
  unfold number
  induction ds generalizing start with
  | nil => simp
  | cons d rest ih =>
    rw [List.foldl_cons, List.foldl_cons, ih, ih (0 * radix + d.value), List.length_cons]
    ring

theorem number_append (ds es : List (LiteralDigit radix)) :
    number (ds ++ es) = number ds * radix ^ es.length + number es := by
  rw [← foldl_number, number, List.foldl_append]
  rfl

/-- A zero in front does not count. -/
theorem number_zero_cons {zero : LiteralDigit radix} (h : zero.value.val = 0)
    (ds : List (LiteralDigit radix)) : number (zero :: ds) = number ds := by
  rw [number, number, List.foldl_cons, h, Nat.zero_mul]

/-- Dropping separators leaves digits as they are. -/
theorem filter_chars (hradix : radix ≤ 16) (ds : List (LiteralDigit radix)) :
    (chars ds).filter (· ≠ '_') = chars ds := by
  rw [List.filter_eq_self]
  intro c hc
  obtain ⟨d, -, rfl⟩ := List.mem_map.mp hc
  exact decide_eq_true (char_ne hradix d).1

end LiteralDigit

namespace DigitRun

variable {radix : Nat}

theorem digits_ne_nil (r : DigitRun radix) : r.digits ≠ [] := List.cons_ne_nil _ _

/-- Dropping separators leaves the digits. -/
theorem filter_chars (hradix : radix ≤ 16) (r : DigitRun radix) :
    r.chars.filter (· ≠ '_') = LiteralDigit.chars r.digits := by
  have hchar (d : LiteralDigit radix) : d.char ≠ '_' := (LiteralDigit.char_ne hradix d).1
  have hseparated (x : Bool × LiteralDigit radix) :
      (separated x).filter (· ≠ '_') = [x.2.char] := by
    obtain ⟨before, d⟩ := x
    cases before <;> simp [separated, hchar]
  have hfirst : decide (r.first.char ≠ '_') = true := decide_eq_true (hchar r.first)
  rw [chars, List.filter_cons, if_pos hfirst, List.filter_flatMap]
  simp only [hseparated]
  rw [digits, LiteralDigit.chars, List.map_cons, List.map_map, ← List.map_eq_flatMap]
  rfl

end DigitRun

theorem LiteralBase.radix_le (base : LiteralBase) : base.radix ≤ 16 := by
  cases base <;> decide

theorem WholePart.filter_chars (whole : WholePart) :
    whole.chars.filter (· ≠ '_') = LiteralDigit.chars whole.digits := by
  cases whole with
  | zero => rfl
  | plain run hfirst => exact run.filter_chars (by decide)
  | zeroLed ds hds =>
    rw [chars, List.filter_cons, if_pos (by decide), LiteralDigit.filter_chars (by decide)]
    rfl

theorem LiteralBase.letter_ne (base : LiteralBase) (capital : Bool) :
    base.letter capital ≠ '_' ∧ base.letter capital ≠ 'n' := by
  cases base <;> cases capital <;> decide

/-! ## Literals without separators -/

namespace NumberLiteral

/-- The characters of an exponent, without separators. -/
def plainExponent : Option ExponentPart → List Char
  | none => []
  | some e => e.letter :: (e.sign.chars ++ LiteralDigit.chars e.run.digits)

/-- A decimal without separators: the digits before the point, the point with those after
it, and the exponent. -/
def plainDecimal (whole : List (LiteralDigit 10)) (fraction : Option (List (LiteralDigit 10)))
    (exponent : Option ExponentPart) : List Char :=
  LiteralDigit.chars whole
    ++ (Reading.pointed (fraction.map LiteralDigit.chars) ++ plainExponent exponent)

/-- The characters of a literal without separators. -/
def plainChars : NumberLiteral → List Char
  | based base capital run => '0' :: base.letter capital :: LiteralDigit.chars run.digits
  | zeroOctal digits _ => '0' :: LiteralDigit.chars digits
  | decimal whole fraction exponent =>
    plainDecimal whole.digits (fractionDigits fraction) exponent
  | pointLed run exponent => plainDecimal [] (some run.digits) exponent

theorem filter_exponentChars (e : Option ExponentPart) :
    (exponentChars e).filter (· ≠ '_') = plainExponent e := by
  cases e with
  | none => rfl
  | some e =>
    have hletter : e.letter ≠ '_' := by
      unfold ExponentPart.letter
      cases e.capital <;> decide
    have hsign : e.sign.chars.filter (· ≠ '_') = e.sign.chars := by
      cases e.sign <;> rfl
    rw [exponentChars, ExponentPart.chars, List.filter_cons, if_pos (decide_eq_true hletter),
      List.filter_append, hsign, DigitRun.filter_chars (by decide), plainExponent]

theorem filter_fractionChars (fraction : Option (Option (DigitRun 10))) :
    (fractionChars fraction).filter (· ≠ '_')
      = Reading.pointed ((fractionDigits fraction).map LiteralDigit.chars) := by
  rcases fraction with - | - | run
  · rfl
  · rfl
  · rw [fractionChars, List.filter_cons, if_pos (by decide), run.filter_chars (by decide)]
    rfl

/-- Dropping separators from a literal. -/
theorem filter_chars (l : NumberLiteral) : l.chars.filter (· ≠ '_') = l.plainChars := by
  cases l with
  | based base capital run =>
    rw [chars, List.filter_cons, if_pos (by decide), List.filter_cons,
      if_pos (decide_eq_true (base.letter_ne capital).1), run.filter_chars base.radix_le, plainChars]
  | zeroOctal digits hne =>
    rw [chars, List.filter_cons, if_pos (by decide), LiteralDigit.filter_chars (by decide),
      plainChars]
  | decimal whole fraction exponent =>
    rw [chars, List.filter_append, List.filter_append, whole.filter_chars,
      filter_fractionChars, filter_exponentChars, plainChars, plainDecimal]
  | pointLed run exponent =>
    rw [chars, List.filter_cons, if_pos (by decide), List.filter_append,
      run.filter_chars (by decide), filter_exponentChars]
    rfl

end NumberLiteral

end CodeSmell
