/-
Blank characters: those that separate words and that trimming takes off.

The class is the Unicode one (category Zs, the line and paragraph separators,
and the bidirectional classes of white space), so it holds the no-break space
and the ideographic space, and also the four ASCII information separators.
Numerals are trimmed of a smaller class, which leaves those four out.
-/
import CodeSmell.Text.CharRange

set_option autoImplicit false

namespace CodeSmell.Text

/-- The ranges of blank characters. -/
def blankTable : List CharRange := rangesOf
  [(0x9, 0xD), (0x1C, 0x20), (0x85, 0x85), (0xA0, 0xA0), (0x1680, 0x1680), (0x2000, 0x200A),
   (0x2028, 0x2029), (0x202F, 0x202F), (0x205F, 0x205F), (0x3000, 0x3000)]

/-- The character is blank. -/
def isBlank (c : Char) : Bool := CharRange.inTable blankTable c

/-- Blank, and not one of the information separators U+001C to U+001F: what may
stand around a numeral. -/
def isNumeralBlank (c : Char) : Bool :=
  isBlank c && !(CharRange.mk 0x1C 0x1F).holds c

/-- A list without the trailing members that pass the test. -/
def trimEndWhere (p : Char → Bool) (cs : List Char) : List Char :=
  (cs.reverse.dropWhile p).reverse

/-- A list without the leading and trailing members that pass the test. -/
def trimWhere (p : Char → Bool) (cs : List Char) : List Char :=
  trimEndWhere p (cs.dropWhile p)

/-- A text without its leading and trailing blanks. -/
def trim (s : String) : String := String.ofList (trimWhere isBlank s.toList)

example : isBlank ' ' = true := by decide
example : isBlank '\u00a0' = true := by decide
example : isBlank '\u200b' = false := by decide
example : isNumeralBlank '\x1c' = false := by decide

end CodeSmell.Text
