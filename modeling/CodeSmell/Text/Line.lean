/-
Lines of a text.

Only the line feed ends a line. When bytes become text, the two other line ends
in use, a carriage return with and without a line feed after it, are turned into
a line feed first.
-/
set_option autoImplicit false

namespace CodeSmell.Text

/-- Every line end as a line feed, onto the characters in `acc`, in reverse. -/
def unifyLineEndsOnto (acc : List Char) : List Char → List Char
  | [] => acc.reverse
  | '\r' :: '\n' :: rest => unifyLineEndsOnto ('\n' :: acc) rest
  | '\r' :: rest => unifyLineEndsOnto ('\n' :: acc) rest
  | c :: rest => unifyLineEndsOnto (c :: acc) rest

/-- Every line end as a line feed. -/
def unifyLineEnds (cs : List Char) : List Char := unifyLineEndsOnto [] cs

/-- The number of lines of a text: one more than its line feeds. -/
def lineCount (s : String) : Nat := s.toList.count '\n' + 1

theorem lineCount_pos (s : String) : 1 ≤ lineCount s := Nat.le_add_left 1 _

/-- The pieces of a list between members equal to `sep`. -/
def splitAt (sep : Char) : List Char → List (List Char)
  | [] => [[]]
  | c :: rest =>
    if c = sep then [] :: splitAt sep rest
    else
      match splitAt sep rest with
      | [] => [[c]]
      | piece :: pieces => (c :: piece) :: pieces

end CodeSmell.Text
