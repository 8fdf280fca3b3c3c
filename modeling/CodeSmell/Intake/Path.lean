/-
Paths.

A path is the list of its parts, with a root in front if it has one. Slashes in a
row count as one, except that exactly two in front are a root of their own, and a
part that is a single point is left out. The path without parts and root is
written as a point.
-/
set_option autoImplicit false

namespace CodeSmell

/-- A path. -/
structure Path where
  /-- The slashes in front. -/
  root : String
  parts : List String
  deriving DecidableEq, Repr, Inhabited

namespace Path

/-- The pieces of a text between slashes. -/
def pieces (text : String) : List String := text.splitOn "/"

/-- The root of a text. -/
def rootOf (text : String) : String :=
  match (text.toList.takeWhile (· = '/')).length with
  | 0 => ""
  | 2 => "//"
  | _ => "/"

/-- The path of a text. -/
def ofText (text : String) : Path :=
  ⟨rootOf text, (pieces text).filter fun p => !p.isEmpty && p != "."⟩

/-- The path as it is written. -/
def text (p : Path) : String :=
  if p.root.isEmpty && p.parts.isEmpty then "." else p.root ++ "/".intercalate p.parts

/-- The last part. -/
def name (p : Path) : String := p.parts.getLast?.getD ""

/-- The path without its last part. -/
def parent (p : Path) : Path := { p with parts := p.parts.dropLast }

/-- The path holds the character zero. No machine can be asked about it. -/
def holdsZero (p : Path) : Bool := p.parts.any fun part => part.toList.contains '\x00'

end Path

end CodeSmell
