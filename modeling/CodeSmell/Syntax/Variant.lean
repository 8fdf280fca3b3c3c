/-
The two grammars of the language: the plain one, and the one with markup. A file
name ending in `.tsx`, in any case, selects the second.
-/
import CodeSmell.Text.Casing

set_option autoImplicit false

namespace CodeSmell

/-- The grammar that a source is read with. -/
inductive Variant where
  | typescript
  | tsx
  deriving DecidableEq, Repr, Inhabited

namespace Variant

/-- The name of the grammar. -/
def text : Variant → String
  | typescript => "typescript"
  | tsx => "tsx"

/-- The grammar of a name. -/
def ofText? (s : String) : Option Variant :=
  if s = "typescript" then some typescript
  else if s = "tsx" then some tsx
  else none

/-- What is said about a value, given as messages show it, that names no grammar. -/
def unknownMessage (shown : String) : String := shown ++ " is not a valid SyntaxVariant"

/-- The grammar for a source with the given file name, if it has one. -/
def forFilename (filename : Option String) : Variant :=
  match filename with
  | some name => if Text.endsWithFolded name ".tsx" then tsx else typescript
  | none => typescript

end Variant

end CodeSmell
