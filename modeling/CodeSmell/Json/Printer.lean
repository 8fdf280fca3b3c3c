/-
JSON text in one canonical form.

The fields of an object are written in the order of their keys, by code point,
and the elements of an array in theirs. With an indentation every element and
field stands on a line of its own, indented by its depth; without one the text is
a single line with a blank after each comma and colon. Empty arrays and objects
are two characters in both forms. Only the quote, the backslash and the control
characters below the blank are escaped, so every other character stands as it is.
The text of a document ends in a line feed.
-/
import CodeSmell.Json.Value
import CodeSmell.Number.Numeral
import CodeSmell.Text.Quoted

set_option autoImplicit false

namespace CodeSmell.Json

/-- A character inside a string. -/
def escapeChar (c : Char) : List Char :=
  if c = '"' then ['\\', '"']
  else if c = '\\' then ['\\', '\\']
  else if c = '\n' then ['\\', 'n']
  else if c = '\r' then ['\\', 'r']
  else if c = '\t' then ['\\', 't']
  else if c = '\x08' then ['\\', 'b']
  else if c = '\x0c' then ['\\', 'f']
  else if c.toNat < 0x20 then '\\' :: 'u' :: Text.Quoted.hex 4 c.toNat
  else [c]

/-- A string with its quotes. -/
def quote (s : String) : List Char := '"' :: s.toList.flatMap escapeChar ++ ['"']

/-- The fields in the order of their keys. -/
def sortFields {α : Type} (fields : List (String × α)) : List (String × α) :=
  fields.mergeSort fun a b => decide (a.1 ≤ b.1)

/-- The line feed and indentation in front of an element at a depth, nothing where
the text is a single line. -/
def lineStart (indent : Option Nat) (depth : Nat) : List Char :=
  match indent with
  | none => []
  | some width => '\n' :: List.replicate (width * depth) ' '

/-- What stands between two elements at a depth. -/
def separator (indent : Option Nat) (depth : Nat) : List Char :=
  match indent with
  | none => [',', ' ']
  | some _ => ',' :: lineStart indent depth

/-- Written elements between brackets, at the depth of the brackets. -/
def enclose (indent : Option Nat) (depth : Nat) (opening closing : Char)
    (elements : List (List Char)) : List Char :=
  if elements.isEmpty then [opening, closing]
  else
    opening :: lineStart indent (depth + 1)
      ++ (separator indent (depth + 1)).intercalate elements
      ++ lineStart indent depth ++ [closing]

mutual
/-- The text of a value that stands at a depth. -/
def write (indent : Option Nat) (depth : Nat) : Json → List Char
  | .null => "null".toList
  | .bool b => (if b then "true" else "false").toList
  | .int n => (integerText n).toList
  | .float x => Numeral.characters Numeral.json x
  | .str s => quote s
  | .arr items => enclose indent depth '[' ']' (writeItems indent (depth + 1) items)
  | .obj fields =>
    enclose indent depth '{' '}'
      ((sortFields (writeFields indent (depth + 1) fields)).map fun (k, text) =>
        quote k ++ ':' :: ' ' :: text)

/-- The texts of the elements of an array. -/
def writeItems (indent : Option Nat) (depth : Nat) : List Json → List (List Char)
  | [] => []
  | j :: rest => write indent depth j :: writeItems indent depth rest

/-- The keys of an object with the texts of their values. -/
def writeFields (indent : Option Nat) (depth : Nat) :
    List (String × Json) → List (String × List Char)
  | [] => []
  | (k, j) :: rest => (k, write indent depth j) :: writeFields indent depth rest
end

/-- The text of a document. -/
def render (indent : Option Nat) (j : Json) : String :=
  String.ofList (write indent 0 j ++ ['\n'])

/-- The indentation of reports. -/
def reportIndent : Option Nat := some 2

end CodeSmell.Json
