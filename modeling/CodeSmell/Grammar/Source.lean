/-
A source, ready to be read by the grammar.

Places in a source are counted in characters, so reading never meets half a
character. Trees speak of bytes: the source knows the byte at which each
character and each row begins, and turns a place into a row and a column. Only a
line feed begins a new row.

What separates words, what ends a line and what a name is made of are classes of
characters. A name may hold every character that has no other use in the
language.
-/
import CodeSmell.Syntax.Node

set_option autoImplicit false

namespace CodeSmell.Grammar

/-- A source with its places. -/
structure Source where
  chars : Array Char
  bytes : ByteArray
  /-- The byte at which each character begins, and the end. -/
  offsets : Array Nat
  /-- The byte at which each row begins. -/
  rowStarts : Array Nat
  /-- Elements of markup are expressions. -/
  markup : Bool

namespace Source

/-- The source with a text. -/
def ofString (text : String) (markup : Bool) : Source :=
  let start : Array Nat × Array Nat × Nat := (#[], #[0], 0)
  let (offsets, rowStarts, stop) := text.toList.foldl
    (fun (offsets, rowStarts, b) c =>
      let next := b + c.utf8Size
      (offsets.push b, if c = '\n' then rowStarts.push next else rowStarts, next))
    start
  { chars := text.toList.toArray
    bytes := text.toUTF8
    offsets := offsets.push stop
    rowStarts := rowStarts
    markup := markup }

/-- The number of characters. -/
def size (s : Source) : Nat := s.chars.size

/-- The character at a place. -/
def char? (s : Source) (i : Nat) : Option Char := s.chars[i]?

/-- The character at a place passes a test. -/
def charIs (s : Source) (i : Nat) (p : Char → Bool) : Bool := (s.char? i).any p

/-- The characters of a word stand at a place. -/
def startsWith (s : Source) (i : Nat) : List Char → Bool
  | [] => true
  | c :: rest => s.char? i == some c && s.startsWith (i + 1) rest

/-- The first place from `i` on whose character fails a test. -/
def skipWhile (s : Source) (p : Char → Bool) (i : Nat) : Nat :=
  if h : i < s.chars.size then
    if p s.chars[i] then s.skipWhile p (i + 1) else i
  else i
termination_by s.chars.size - i

/-- The text between two places. -/
def slice (s : Source) (start stop : Nat) : String :=
  String.ofList (s.chars.extract start stop).toList

/-- The last of the rows from `low` up to `high` that begins at the byte or before
it. -/
def rowBetween (starts : Array Nat) (b low high : Nat) : Nat :=
  if high ≤ low + 1 then low
  else
    let middle := (low + high) / 2
    if starts.getD middle 0 ≤ b then rowBetween starts b middle high
    else rowBetween starts b low middle
termination_by high - low

/-- The byte at which the character at a place begins. -/
def offset (s : Source) (i : Nat) : Nat := s.offsets.getD i s.bytes.size

/-- The row and the column of a place. -/
def point (s : Source) (i : Nat) : Point :=
  let b := s.offset i
  let row := rowBetween s.rowStarts b 0 s.rowStarts.size
  ⟨row, Int.ofNat b - Int.ofNat (s.rowStarts.getD row 0)⟩

/-- The bytes between two places. -/
def excerpt (s : Source) (start stop : Nat) : Excerpt := ⟨s.bytes, s.offset start, s.offset stop⟩

end Source

/-! ## Classes of characters -/

/-- Ends a line, so that a statement may end there. -/
def endsLine (c : Char) : Bool :=
  c == '\n' || c == '\r' || c == '\u2028' || c == '\u2029'

/-- Separates words. -/
def isSpace (c : Char) : Bool :=
  let n := c.toNat
  (decide (9 ≤ n) && decide (n ≤ 13)) || n == 0x20 || n == 0x85 || n == 0xA0 || n == 0x1680
    || (decide (0x2000 ≤ n) && decide (n ≤ 0x200B)) || n == 0x2028 || n == 0x2029
    || n == 0x202F || n == 0x205F || n == 0x2060 || n == 0x3000 || n == 0xFEFF

/-- Has a use of its own, so that no name holds it. -/
def isSignChar (c : Char) : Bool :=
  [':', ';', '`', '"', '\'', '@', '#', '.', ',', '|', '^', '&', '<', '=', '>', '+', '-', '*',
   '/', '\\', '%', '?', '!', '~', '(', ')', '[', ']', '{', '}'].contains c

/-- May stand in a name. -/
def isNameChar (c : Char) : Bool :=
  c.isAlphanum || c == '_' || c == '$'
    || (decide (0x20 ≤ c.toNat) && !isSpace c && !isSignChar c)

/-- May begin a name. -/
def isNameStart (c : Char) : Bool := isNameChar c && !c.isDigit

def isHexDigit (c : Char) : Bool :=
  c.isDigit || (decide ('a' ≤ c) && decide (c ≤ 'f')) || (decide ('A' ≤ c) && decide (c ≤ 'F'))

def isOctalDigit (c : Char) : Bool := decide ('0' ≤ c) && decide (c ≤ '7')

def isBinaryDigit (c : Char) : Bool := c == '0' || c == '1'

end CodeSmell.Grammar
