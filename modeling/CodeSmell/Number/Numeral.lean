/-
Numerals: how a number is written.

A layout fixes what the digits leave open: for which places of the decimal point
the numeral is positional, whether a whole number keeps a point and a zero, how
many digits an exponent has at least, and the words for what is not finite.
Three layouts are in use. Findings quote numbers as scripts print them; JSON
keeps a mark that the number is a fraction; messages show fractions as JSON does,
with small words for what is not finite.
-/
import CodeSmell.Number.Shortest

set_option autoImplicit false

namespace CodeSmell

/-- The decimal digits of a natural. -/
def naturalDigits (n : Nat) : List Char := Nat.toDigits 10 n

/-- An integer as a numeral. -/
def integerText (n : Int) : String :=
  match n with
  | .ofNat n => String.ofList (naturalDigits n)
  | .negSucc n => String.ofList ('-' :: naturalDigits (n + 1))

namespace Numeral

/-- What the digits of a double leave open. -/
structure Layout where
  /-- Positional above this place of the point. -/
  above : Int
  /-- Positional up to this place of the point. -/
  upTo : Int
  /-- What follows a whole number in positional notation. -/
  wholeTail : List Char
  /-- The least number of digits of an exponent. -/
  exponentWidth : Nat
  /-- A zero shows its sign. -/
  signedZero : Bool
  nan : List Char
  infinity : List Char

/-- As scripts print numbers: positional from a millionth up to twenty-one digits. -/
def script : Layout :=
  { above := -6, upTo := 21, wholeTail := [], exponentWidth := 1, signedZero := false
    nan := "NaN".toList, infinity := "Infinity".toList }

/-- As JSON output writes fractions: positional from a ten-thousandth up to sixteen
digits, whole numbers with a point and a zero. -/
def json : Layout :=
  { above := -4, upTo := 16, wholeTail := ['.', '0'], exponentWidth := 2, signedZero := true
    nan := "NaN".toList, infinity := "Infinity".toList }

/-- As messages show fractions. -/
def message : Layout := { json with nan := "nan".toList, infinity := "inf".toList }

/-- Positional notation of `digits` with the point at `point`. -/
def positional (tail digits : List Char) (point : Int) : List Char :=
  if point ≤ 0 then
    '0' :: '.' :: (List.replicate (-point).toNat '0' ++ digits)
  else if digits.length ≤ point then
    digits ++ List.replicate (point.toNat - digits.length) '0' ++ tail
  else
    digits.take point.toNat ++ '.' :: digits.drop point.toNat

/-- An exponent: its sign, and at least `width` digits. -/
def exponentText (width : Nat) (e : Int) : List Char :=
  let digits := naturalDigits e.natAbs
  (if 0 ≤ e then '+' else '-') :: (List.replicate (width - digits.length) '0' ++ digits)

/-- Exponent notation of `digits` with the point at `point`. -/
def scientific (width : Nat) (digits : List Char) (point : Int) : List Char :=
  let mantissa :=
    match digits with
    | [] => []
    | [d] => [d]
    | d :: more => d :: '.' :: more
  mantissa ++ 'e' :: exponentText width (point - 1)

/-- A positive decimal in a layout. -/
def ofDecimal (l : Layout) (d : Decimal) : List Char :=
  let digits := naturalDigits d.digits
  let point : Int := digits.length + d.power
  if l.above < point ∧ point ≤ l.upTo then positional l.wholeTail digits point
  else scientific l.exponentWidth digits point

/-- A double in a layout, as a list of characters. -/
def characters (l : Layout) (x : Binary64) : List Char :=
  let sign := if x.negative then ['-'] else []
  if x.isNaN then l.nan
  else if x.isInfinite then sign ++ l.infinity
  else if x.isZero then (if l.signedZero then sign else []) ++ '0' :: l.wholeTail
  else sign ++ ofDecimal l (Shortest.decimal x)

/-- A double in a layout. -/
def write (l : Layout) (x : Binary64) : String := String.ofList (characters l x)

example : write script ⟨0x444B1AE4D6E2EF50⟩ = "1e+21" := by decide +kernel
example : write json ⟨0x3EE4F8B588E368F1⟩ = "1e-05" := by decide +kernel
example : write script ⟨0x8000000000000000⟩ = "0" := by decide +kernel

end Numeral

end CodeSmell
