/-
JSON values as messages show them.

Messages name values in a notation of their own: the three constants are words
with a capital, strings are quoted, and fractions have small words for what is
not finite. A string on its own, where the message is about its content, stands
without quotes.
-/
import CodeSmell.Json.Value
import CodeSmell.Number.Numeral
import CodeSmell.Text.Quoted

set_option autoImplicit false

namespace CodeSmell.Json

mutual
/-- A value, its strings in quotes. -/
def shown : Json → String
  | .null => "None"
  | .bool true => "True"
  | .bool false => "False"
  | .int n => integerText n
  | .float x => Numeral.write Numeral.message x
  | .str s => Text.quoted s
  | .arr items => "[" ++ ", ".intercalate (shownItems items) ++ "]"
  | .obj fields => "\x7b" ++ ", ".intercalate (shownFields fields) ++ "\x7d"

/-- The elements of an array. -/
def shownItems : List Json → List String
  | [] => []
  | j :: rest => shown j :: shownItems rest

/-- The fields of an object. -/
def shownFields : List (String × Json) → List String
  | [] => []
  | (k, j) :: rest => (Text.quoted k ++ ": " ++ shown j) :: shownFields rest
end

/-- A value, itself without quotes if it is a string. -/
def display : Json → String
  | .str s => s
  | j => shown j

end CodeSmell.Json
