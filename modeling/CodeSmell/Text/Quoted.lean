/-
Quoted texts, as messages show them.

A text is put between apostrophes, or between double quotes when it holds an
apostrophe and no double quote. Inside, the backslash and the quote in use are
escaped, line ends and tabs have letters, and a character that is not printable
is written by its code point in the shortest of three widths. Bytes are quoted
by the same rule for the quote, behind a `b`, and everything outside printable
ASCII is written by its value.
-/
import CodeSmell.Text.Printable

set_option autoImplicit false

namespace CodeSmell.Text

namespace Quoted

/-- A hexadecimal digit, in small letters. -/
def hexDigit (n : Nat) : Char := (Nat.digitChar n).toLower

/-- The last `width` hexadecimal digits of a number. -/
def hex : Nat → Nat → List Char
  | 0, _ => []
  | width + 1, n => hex width (n / 16) ++ [hexDigit (n % 16)]

/-- The quote for a text: an apostrophe, unless the text holds one and holds no
double quote. -/
def quoteFor (cs : List Char) : Char :=
  if cs.contains '\'' && !cs.contains '"' then '"' else '\''

/-- A character by its code point. -/
def codePoint (c : Char) : List Char :=
  let n := c.toNat
  if n ≤ 0xFF then '\\' :: 'x' :: hex 2 n
  else if n ≤ 0xFFFF then '\\' :: 'u' :: hex 4 n
  else '\\' :: 'U' :: hex 8 n

/-- A character as it stands between quotes. -/
def encodeChar (quote c : Char) : List Char :=
  if c = quote ∨ c = '\\' then ['\\', c]
  else if c = '\n' then ['\\', 'n']
  else if c = '\r' then ['\\', 'r']
  else if c = '\t' then ['\\', 't']
  else if isPrintable c then [c]
  else codePoint c

/-- A list of characters between quotes. -/
def encode (cs : List Char) : List Char :=
  let quote := quoteFor cs
  quote :: cs.flatMap (encodeChar quote) ++ [quote]

/-- A byte as it stands between quotes. -/
def encodeByte (quote : Char) (b : UInt8) : List Char :=
  let c := Char.ofNat b.toNat
  if b < 0x20 ∨ 0x7F ≤ b then
    if c = '\n' then ['\\', 'n']
    else if c = '\r' then ['\\', 'r']
    else if c = '\t' then ['\\', 't']
    else '\\' :: 'x' :: hex 2 b.toNat
  else if c = quote ∨ c = '\\' then ['\\', c]
  else [c]

/-- Bytes between quotes. -/
def encodeBytes (bytes : List UInt8) : List Char :=
  let quote := quoteFor (bytes.map fun b => Char.ofNat b.toNat)
  'b' :: quote :: bytes.flatMap (encodeByte quote) ++ [quote]

end Quoted

/-- The text between quotes. -/
def quoted (s : String) : String := String.ofList (Quoted.encode s.toList)

/-- The bytes between quotes. -/
def quotedBytes (bytes : List UInt8) : String := String.ofList (Quoted.encodeBytes bytes)

/-- The texts between quotes, separated by commas. -/
def quotedList (xs : List String) : String := ", ".intercalate (xs.map quoted)

example : quoted "it's" = "\"it's\"" := by decide +kernel
example : quoted "a\n\u200b" = "'a\\n\\u200b'" := by decide +kernel

end CodeSmell.Text
