/-
Reading numbers.

Three readers stand here. The integer reader takes a radix and allows blanks
around the digits, a sign, and single underscores between digits; a decimal
integer may have at most 4300 digits, since converting more would take too long.
The decimal reader takes a sign, digits with a point, an exponent, or the words
for infinity and for no number in any case. The literal reader is the one that
rules use: it drops underscores, sends `0x`, `0o` and `0b` and the old octal
spelling to the integer reader, and the rest to the decimal one.

Digits of every script count, so the readers agree with what the text shows.
-/
import CodeSmell.Number.Binary64
import CodeSmell.Text.Blank
import CodeSmell.Text.Digit
import CodeSmell.Text.Quoted

set_option autoImplicit false

namespace CodeSmell

/-- Why a text is not read as a number. -/
inductive NumeralError where
  /-- Not an integer in the radix; zero stands for "as the prefix says". -/
  | notInteger (radix : Nat) (text : String)
  /-- Not a decimal. -/
  | notDecimal (text : String)
  /-- A decimal integer with more digits than are converted. -/
  | tooManyDigits (count : Nat)
  /-- An integer past the largest double. -/
  | tooLarge
  deriving DecidableEq, Repr

namespace NumeralError

/-- The first 200 characters of a quoted text: integers are quoted no further. -/
def quotedHead (text : String) : String := String.ofList ((Text.quoted text).toList.take 200)

/-- The wording of the error. -/
def message : NumeralError → String
  | notInteger radix text =>
    s!"invalid literal for int() with base {radix}: " ++ quotedHead text
  | notDecimal text => "could not convert string to float: " ++ Text.quoted text
  | tooManyDigits count =>
    s!"Exceeds the limit (4300 digits) for integer string conversion: value has {count} digits; " ++
      "use sys.set_int_max_str_digits() to increase the limit"
  | tooLarge => "int too large to convert to float"

end NumeralError

namespace Reading

/-- The most digits of a decimal integer that are converted. -/
def digitLimit : Nat := 4300

/-- Reads digits, with single underscores between them, onto a value; gives the
value, the number of digits and what follows them, or nothing where an underscore
stands without a digit on both sides. `mustFollow` says that a digit comes next. -/
def scanDigits (radix : Nat) (mustFollow : Bool) (value count : Nat) :
    List Char → Option (Nat × Nat × List Char)
  | [] => if mustFollow then none else some (value, count, [])
  | c :: rest =>
    if c = '_' then
      if mustFollow then none else scanDigits radix true value count rest
    else
      match Text.radixDigit? radix c with
      | some d => scanDigits radix false (value * radix + d) (count + 1) rest
      | none => if mustFollow then none else some (value, count, c :: rest)

/-- Reads digits to the end of the list. The limit on digits is checked before
what follows them. -/
def digits (radix : Nat) (cs : List Char) (failure : NumeralError) : Except NumeralError Nat :=
  match scanDigits radix true 0 0 cs with
  | none => .error failure
  | some (value, count, rest) =>
    if radix = 10 ∧ digitLimit < count then .error (.tooManyDigits count)
    else if rest.isEmpty then .ok value
    else .error failure

/-- A sign in front of a list, and the rest. -/
def sign : List Char → Bool × List Char
  | '-' :: rest => (true, rest)
  | '+' :: rest => (false, rest)
  | cs => (false, cs)

/-- A decimal integer with an optional sign and blanks around it. -/
def integer (text : String) : Except NumeralError Int := do
  let (negative, body) := sign (Text.trimWhere Text.isNumeralBlank text.toList)
  let value ← digits 10 body (.notInteger 10 text)
  return if negative then -(value : Int) else value

/-- The value of a list of decimal digits. -/
def decimalValue (cs : List Char) : Nat :=
  cs.foldl (fun n c => n * 10 + (Text.decimalDigit? c).getD 0) 0

/-- The decimal digits at the head of a list, and the rest. -/
def spanDigits (cs : List Char) : List Char × List Char :=
  cs.span fun c => (Text.decimalDigit? c).isSome

/-- An exponent that takes the whole list, zero for the empty one. -/
def exponent? : List Char → Option Int
  | [] => some 0
  | e :: rest =>
    if e = 'e' ∨ e = 'E' then
      let (negative, body) := sign rest
      let (ds, after) := spanDigits body
      if ds.isEmpty || !after.isEmpty then none
      else some (if negative then -(decimalValue ds : Int) else decimalValue ds)
    else none

/-- Digits with an optional point and exponent, as digits and a power of ten. -/
def decimalParts? (cs : List Char) : Option (Nat × Int) :=
  let (whole, afterWhole) := spanDigits cs
  let (fraction, afterFraction) :=
    match afterWhole with
    | '.' :: rest => spanDigits rest
    | rest => ([], rest)
  if whole.isEmpty && fraction.isEmpty then none
  else
    (exponent? afterFraction).map fun e =>
      (decimalValue (whole ++ fraction), e - fraction.length)

/-- The decimal reader. -/
def decimal (text : String) : Except NumeralError Binary64 :=
  let (negative, body) := sign (Text.trimWhere Text.isNumeralBlank text.toList)
  let word := body.map Char.toLower
  if word = "inf".toList ∨ word = "infinity".toList then .ok (.infinity negative)
  else if word = "nan".toList then .ok (.nan negative)
  else
    match decimalParts? body with
    | some (ds, power) => .ok (.ofDecimal negative ds power)
    | none => .error (.notDecimal text)

/-- The double nearest to an integer. -/
def toDouble (n : Nat) : Except NumeralError Binary64 :=
  match Binary64.ofNat? n with
  | some x => .ok x
  | none => .error .tooLarge

/-- The radix that the two characters at the head of a literal announce. -/
def prefixRadix? : List Char → Option (Nat × List Char)
  | '0' :: p :: rest =>
    match p.toLower with
    | 'x' => some (16, rest)
    | 'o' => some (8, rest)
    | 'b' => some (2, rest)
    | _ => none
  | _ => none

/-- An octal digit in ASCII. -/
def isOctalDigit (c : Char) : Bool := decide ('0' ≤ c) && decide (c ≤ '7')

/-- The spelling of old: a zero, and nothing but digits after it. -/
def isZeroLed : List Char → Bool
  | '0' :: c :: rest => Text.isDigit c && rest.all Text.isDigit
  | _ => false

/-- The value of a number literal. -/
def literal (text : String) : Except NumeralError Binary64 :=
  let cs := text.toList.filter (· ≠ '_')
  let plain := String.ofList cs
  match prefixRadix? cs with
  | some (radix, body) =>
    digits radix (Text.trimEndWhere Text.isNumeralBlank body) (.notInteger 0 plain) >>= toDouble
  | none =>
    if isZeroLed cs then
      -- An eight or a nine rules the octal reading out.
      let radix := if cs.all isOctalDigit then 8 else 10
      digits radix cs (.notInteger radix plain) >>= toDouble
    else decimal plain

end Reading

end CodeSmell
