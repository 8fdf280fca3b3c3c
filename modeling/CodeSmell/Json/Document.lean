/-
JSON values as a text spells them.

A string of a JSON text may spell a half of a surrogate pair that stands alone. Such a
string has code points but no characters for all of them, and so no bytes either. It is
read like any other, and it may stand where nobody looks; it can be shown, with a
replacement character for each half, but it cannot be sent. So what is read is kept
apart from the values that are written: a document has code points where a value has
texts.
-/
import CodeSmell.Json.Value

set_option autoImplicit false

namespace CodeSmell.Json

/-- A half of a surrogate pair. -/
structure Half where
  code : Nat
  range : 0xD800 ≤ code ∧ code ≤ 0xDFFF
  deriving DecidableEq, Repr

/-- A character, or a half of a surrogate pair that stands alone. -/
inductive CodePoint where
  | char (c : Char)
  | half (h : Half)
  deriving DecidableEq, Repr

namespace CodePoint

/-- The code point of a code unit. -/
def ofUnit (n : Nat) : CodePoint :=
  if h : 0xD800 ≤ n ∧ n ≤ 0xDFFF then half ⟨n, h⟩ else char (Char.ofNat n)

def isHalf : CodePoint → Bool
  | char _ => false
  | half _ => true

/-- The character that a code point is shown as. -/
def shown : CodePoint → Char
  | char c => c
  | half _ => '\ufffd'

/-- The code unit of a character is read as the character, for it is no half of a pair. -/
theorem ofUnit_toNat (c : Char) : ofUnit c.toNat = char c := by
  have hvalid : c.toNat < 0xD800 ∨ 0xDFFF < c.toNat ∧ c.toNat < 0x110000 := c.valid
  rw [ofUnit, dif_neg (by omega), Char.ofNat_toNat]

end CodePoint

/-- What a string of a JSON text spells. -/
abbrev Spelling := List CodePoint

namespace Spelling

/-- The spelling of a text. -/
def ofString (s : String) : Spelling := s.toList.map .char

/-- The spelling is that of a text. -/
def isText (s : Spelling) : Bool := s.all fun p => !p.isHalf

/-- The spelling as a text, with a replacement character for each half. -/
def shown (s : Spelling) : String := String.ofList (s.map CodePoint.shown)

/-- The text behind the last half; all of it, if there is none. -/
def ending (s : Spelling) : String :=
  shown (s.reverse.takeWhile fun p => !p.isHalf).reverse

/-- The spelling of a text shows the text. -/
@[simp] theorem shown_ofString (s : String) : (ofString s).shown = s := by
  have hchars : CodePoint.shown ∘ CodePoint.char = id := rfl
  rw [shown, ofString, List.map_map, hchars, List.map_id, String.ofList_toList]

@[simp] theorem isText_ofString (s : String) : (ofString s).isText = true := by
  simp [isText, ofString, CodePoint.isHalf]

end Spelling

/-- A JSON value as it is spelled. -/
inductive Document where
  | null
  | bool (b : Bool)
  | int (n : Int)
  | float (x : Binary64)
  | str (s : Spelling)
  | arr (items : List Document)
  | obj (fields : List (Spelling × Document))
  deriving Inhabited

namespace Document

/-- The value of a field of an object; nothing for any other value. -/
def get? (d : Document) (key : String) : Option Document :=
  match d with
  | obj fields => fields.lookup (.ofString key)
  | _ => none

mutual
/-- The document as a value, with a replacement character for each half. -/
def toJson : Document → Json
  | null => .null
  | bool b => .bool b
  | int n => .int n
  | float x => .float x
  | str s => .str s.shown
  | arr items => .arr (itemsToJson items)
  | obj fields => .obj (fieldsToJson fields)

/-- The elements of an array. -/
def itemsToJson : List Document → List Json
  | [] => []
  | d :: rest => toJson d :: itemsToJson rest

/-- The fields of an object. -/
def fieldsToJson : List (Spelling × Document) → List (String × Json)
  | [] => []
  | (k, d) :: rest => (k.shown, toJson d) :: fieldsToJson rest
end

mutual
/-- All fractions and all strings of the document, its keys included, pass. -/
def all (float : Binary64 → Bool) (string : Spelling → Bool) : Document → Bool
  | .float x => float x
  | .str s => string s
  | .arr items => allItems float string items
  | .obj fields => allFields float string fields
  | _ => true

/-- All fractions and strings of the elements of an array pass. -/
def allItems (float : Binary64 → Bool) (string : Spelling → Bool) : List Document → Bool
  | [] => true
  | d :: rest => all float string d && allItems float string rest

/-- All fractions and strings of the fields of an object pass. -/
def allFields (float : Binary64 → Bool) (string : Spelling → Bool) :
    List (Spelling × Document) → Bool
  | [] => true
  | (k, d) :: rest => string k && all float string d && allFields float string rest
end

/-- The document has no fraction that is not finite, for which JSON has no spelling. -/
def isFinite (d : Document) : Bool :=
  d.all (fun x => decide (x.magnitude < Binary64.infinityBits)) fun _ => true

/-- The document has no half of a surrogate pair, for which there are no bytes. -/
def isText (d : Document) : Bool := d.all (fun _ => true) Spelling.isText

end Document

end CodeSmell.Json
