/-
Reading JSON.

The reader goes through the text once and names the first fault it meets by the
text that is left there, so that a position is the difference of two lengths.
Three words beyond the standard are read as numbers that are not finite. An object
with a key that comes twice keeps the last value, at the first place.

Values nest, so the reader carries a bound on the nesting. Every level of nesting
takes a character, so the length of the text is bound enough.
-/
import CodeSmell.Json.Document
import CodeSmell.Number.Reading

set_option autoImplicit false

namespace CodeSmell.Json

/-- What is wrong with a JSON text. -/
inductive FaultKind where
  | value
  | propertyName
  | colon
  | comma
  | unterminatedString
  | controlCharacter
  | escape
  | unicodeEscape
  | extraData
  | byteOrderMark
  /-- An integer with more digits than are converted. -/
  | number (error : NumeralError)
  deriving DecidableEq, Repr

/-- A fault, and the text from it on. -/
structure Fault where
  kind : FaultKind
  rest : List Char

/-- The wording of a fault, without its place. -/
def FaultKind.message : FaultKind → String
  | value => "Expecting value"
  | propertyName => "Expecting property name enclosed in double quotes"
  | colon => "Expecting ':' delimiter"
  | comma => "Expecting ',' delimiter"
  | unterminatedString => "Unterminated string starting at"
  | controlCharacter => "Invalid control character at"
  | escape => "Invalid \\escape"
  | unicodeEscape => "Invalid \\uXXXX escape"
  | extraData => "Extra data"
  | byteOrderMark => "Unexpected UTF-8 BOM (decode using utf-8-sig)"
  | number error => error.message

namespace Reader

/-- White space between the tokens of JSON. -/
def isSpace (c : Char) : Bool := c == ' ' || c == '\t' || c == '\n' || c == '\r'

def skip (cs : List Char) : List Char := cs.dropWhile isSpace

/-- The value of four hexadecimal digits. -/
def hexValue? (cs : List Char) : Option Nat :=
  cs.foldl (fun acc c => do return (← acc) * 16 + (← digit c)) (some 0)
where
  digit (c : Char) : Option Nat := if c.toNat < 0x80 then Text.radixDigit? 16 c else none

/-- The code unit of an escape `uXXXX` whose four digits and at least one further
character are there, with the text after the digits. -/
def unicodeUnit? : List Char → Option (Nat × List Char)
  | a :: b :: c :: d :: e :: rest => (hexValue? [a, b, c, d]).map (·, e :: rest)
  | _ => none

def isHighSurrogate (n : Nat) : Bool := decide (0xD800 ≤ n) && decide (n ≤ 0xDBFF)

def isLowSurrogate (n : Nat) : Bool := decide (0xDC00 ≤ n) && decide (n ≤ 0xDFFF)

/-- The code point that an escape stands for whose digits begin the text, with the
text after it. A high surrogate takes the low one that follows it along. What
cannot be read is given from its `u` on. -/
def unicodeEscape (cs : List Char) : Except (List Char) (CodePoint × List Char) :=
  match unicodeUnit? cs with
  | none => .error ('u' :: cs)
  | some (high, rest) =>
    match isHighSurrogate high, rest with
    | true, '\\' :: 'u' :: more =>
      match unicodeUnit? more with
      -- A second escape that the text is too short for is left to be read by itself.
      | none => if more.length ≤ 4 then .ok (.ofUnit high, rest) else .error ('u' :: more)
      | some (low, after) =>
        if isLowSurrogate low then
          .ok (.char (Char.ofNat (0x10000 + (high - 0xD800) * 0x400 + (low - 0xDC00))), after)
        else .ok (.ofUnit high, rest)
    | _, _ => .ok (.ofUnit high, rest)

/-- The character of a one-letter escape. -/
def letterEscape? (c : Char) : Option Char :=
  match c with
  | '"' => some '"'
  | '\\' => some '\\'
  | '/' => some '/'
  | 'b' => some '\x08'
  | 'f' => some '\x0c'
  | 'n' => some '\n'
  | 'r' => some '\r'
  | 't' => some '\t'
  | _ => none

/-- Reads a string after its opening quote, onto the code points in `acc`, in
reverse. `opening` is the text from that quote on. The number bounds the steps. -/
def string (opening : List Char) : Nat → Spelling → List Char →
    Except Fault (Spelling × List Char)
  | 0, _, _ => .error ⟨.unterminatedString, opening⟩
  | _ + 1, _, [] => .error ⟨.unterminatedString, opening⟩
  | steps + 1, acc, c :: rest =>
    if c = '"' then .ok (acc.reverse, rest)
    else if c = '\\' then
      match rest with
      | [] => .error ⟨.unterminatedString, opening⟩
      | 'u' :: more =>
        match unicodeEscape more with
        | .ok (p, after) => string opening steps (p :: acc) after
        | .error left => .error ⟨.unicodeEscape, left⟩
      | e :: more =>
        match letterEscape? e with
        | some ch => string opening steps (.char ch :: acc) more
        | none => .error ⟨.escape, c :: rest⟩
    else if c.toNat < 0x20 then .error ⟨.controlCharacter, c :: rest⟩
    else string opening steps (.char c :: acc) rest

def isAsciiDigit (c : Char) : Bool := decide ('0' ≤ c) && decide (c ≤ '9')

/-- The whole part of a number: a zero alone, or digits that begin with another. -/
def wholePart? : List Char → Option (List Char × List Char)
  | '0' :: rest => some (['0'], rest)
  | cs =>
    let (ds, rest) := cs.span isAsciiDigit
    if ds.isEmpty then none else some (ds, rest)

/-- The fraction of a number, where a digit follows the point. -/
def fractionPart (cs : List Char) : List Char × List Char :=
  match cs with
  | '.' :: rest =>
    let (ds, after) := rest.span isAsciiDigit
    if ds.isEmpty then ([], cs) else ('.' :: ds, after)
  | _ => ([], cs)

/-- The exponent of a number, where a digit follows the letter and the sign. -/
def exponentPart (cs : List Char) : List Char × List Char :=
  match cs with
  | e :: rest =>
    if e = 'e' ∨ e = 'E' then
      let (mark, body) :=
        match rest with
        | '+' :: more => ([e, '+'], more)
        | '-' :: more => ([e, '-'], more)
        | _ => ([e], rest)
      let (ds, after) := body.span isAsciiDigit
      if ds.isEmpty then ([], cs) else (mark ++ ds, after)
    else ([], cs)
  | [] => ([], cs)

/-- Reads a number: an integer, unless it has a fraction or an exponent. -/
def number (cs : List Char) : Except Fault (Document × List Char) :=
  let (minus, body) :=
    match cs with
    | '-' :: rest => (['-'], rest)
    | _ => ([], cs)
  match wholePart? body with
  | none => .error ⟨.value, cs⟩
  | some (whole, afterWhole) =>
    let (fraction, afterFraction) := fractionPart afterWhole
    let (power, rest) := exponentPart afterFraction
    if fraction.isEmpty && power.isEmpty then
      match Reading.integer (String.ofList (minus ++ whole)) with
      | .ok n => .ok (.int n, rest)
      | .error e => .error ⟨.number e, cs⟩
    else
      match Reading.decimal (String.ofList (minus ++ whole ++ fraction ++ power)) with
      | .ok x => .ok (.float x, rest)
      | .error e => .error ⟨.number e, cs⟩

mutual
/-- Reads a value. The number bounds the calls inside one another; a bracket takes at most
two of them. -/
def value : Nat → List Char → Except Fault (Document × List Char)
  | 0, cs => .error ⟨.value, cs⟩
  | depth + 1, cs =>
    match cs with
    | '"' :: rest => do
      let (s, after) ← string cs (rest.length + 1) [] rest
      return (.str s, after)
    | '{' :: rest =>
      match skip rest with
      | '}' :: after => .ok (.obj [], after)
      | inner => fields depth [] inner
    | '[' :: rest =>
      match skip rest with
      | ']' :: after => .ok (.arr [], after)
      | inner => items depth [] inner
    | 'n' :: 'u' :: 'l' :: 'l' :: rest => .ok (.null, rest)
    | 't' :: 'r' :: 'u' :: 'e' :: rest => .ok (.bool true, rest)
    | 'f' :: 'a' :: 'l' :: 's' :: 'e' :: rest => .ok (.bool false, rest)
    -- The words beyond the standard.
    | 'N' :: 'a' :: 'N' :: rest => .ok (.float (.nan false), rest)
    | 'I' :: 'n' :: 'f' :: 'i' :: 'n' :: 'i' :: 't' :: 'y' :: rest =>
      .ok (.float (.infinity false), rest)
    | '-' :: 'I' :: 'n' :: 'f' :: 'i' :: 'n' :: 'i' :: 't' :: 'y' :: rest =>
      .ok (.float (.infinity true), rest)
    | _ => number cs

/-- Reads the elements of an array, from the first character of one of them on. -/
def items : Nat → List Document → List Char → Except Fault (Document × List Char)
  | 0, _, cs => .error ⟨.value, cs⟩
  | depth + 1, acc, cs => do
    let (d, after) ← value depth cs
    match skip after with
    | ']' :: rest => return (.arr (d :: acc).reverse, rest)
    | ',' :: rest => items depth (d :: acc) (skip rest)
    | rest => .error ⟨.comma, rest⟩

/-- Reads the fields of an object, from the first character of a key on. -/
def fields : Nat → List (Spelling × Document) → List Char → Except Fault (Document × List Char)
  | 0, _, cs => .error ⟨.value, cs⟩
  | depth + 1, acc, cs =>
    match cs with
    | '"' :: rest => do
      let (key, afterKey) ← string cs (rest.length + 1) [] rest
      match skip afterKey with
      | ':' :: afterColon =>
        let (d, after) ← value depth (skip afterColon)
        let acc := put key d acc
        match skip after with
        | '}' :: rest => return (.obj acc, rest)
        | ',' :: rest => fields depth acc (skip rest)
        | rest => .error ⟨.comma, rest⟩
      | other => .error ⟨.colon, other⟩
    | _ => .error ⟨.propertyName, cs⟩
end

/-- Reads a document: one value, with white space around it. -/
def document (cs : List Char) : Except Fault Document :=
  match cs with
  | '\ufeff' :: _ => .error ⟨.byteOrderMark, cs⟩
  | _ =>
    match value (2 * cs.length + 2) (skip cs) with
    | .error fault => .error fault
    | .ok (d, rest) =>
      match skip rest with
      | [] => .ok d
      | extra => .error ⟨.extraData, extra⟩

end Reader

/-- A fault with its place: the number of characters in front of it. -/
structure SyntaxFault where
  kind : FaultKind
  position : Nat
  line : Nat
  column : Nat
  deriving Repr

/-- The wording of a fault and its place. An integer that is not converted has no
place. -/
def SyntaxFault.message (e : SyntaxFault) : String :=
  match e.kind with
  | .number error => error.message
  | kind => s!"{kind.message}: line {e.line} column {e.column} (char {e.position})"

/-- A fault placed in the text it was found in. -/
def Fault.placeIn (whole : List Char) (f : Fault) : SyntaxFault :=
  let position := whole.length - f.rest.length
  let before := whole.take position
  { kind := f.kind
    position := position
    line := before.count '\n' + 1
    column := (before.reverse.takeWhile (· ≠ '\n')).length + 1 }

/-- Reads a JSON document. -/
def Document.parse (text : List Char) : Except SyntaxFault Document :=
  (Reader.document text).mapError (Fault.placeIn text)

/-- Reads a JSON document as a value. -/
def parse (text : List Char) : Except SyntaxFault Json := (Document.parse text).map Document.toJson

end CodeSmell.Json
