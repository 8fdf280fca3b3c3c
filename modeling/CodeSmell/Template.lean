/-
Description templates.

A template is text with placeholders: a name in braces stands for the fact of
that name, and a doubled brace for the brace itself. Reading goes from left to
right and stops at the first thing that is wrong: a closing brace on its own, an
opening brace at the very end, a placeholder that is not closed, one without a
name, or one that names no fact. Facts go in as they are and are not read again.
-/
import CodeSmell.Json.Display

set_option autoImplicit false

namespace CodeSmell

/-- What a rule has to say about a node beyond its place, by name. -/
abbrev Facts := List (String × Json)

/-- Why a template cannot be filled in. -/
inductive TemplateError where
  | missingFact (name : String)
  | namelessPlaceholder
  | loneClosingBrace
  | loneOpeningBrace
  | unclosedPlaceholder
  deriving DecidableEq, Repr

namespace TemplateError

/-- The wording of the error. -/
def message : TemplateError → String
  | missingFact name => Text.quoted name
  | namelessPlaceholder => "Replacement index 0 out of range for positional args tuple"
  | loneClosingBrace => "Single '\x7d' encountered in format string"
  | loneOpeningBrace => "Single '\x7b' encountered in format string"
  | unclosedPlaceholder => "expected '\x7d' before end of string"

end TemplateError

namespace Template

/-- A way to fill in templates: the text that comes of a template and facts, or why
there is none. -/
abbrev Filler (ε : Type) := String → Facts → Except ε String

/-- The text for a placeholder. -/
def lookup (facts : Facts) (name : String) : Except TemplateError (List Char) :=
  if name.isEmpty then .error .namelessPlaceholder
  else
    match facts.lookup name with
    | some value => .ok value.display.toList
    | none => .error (.missingFact name)

mutual
/-- Fills in a template. -/
def fillText (facts : Facts) : List Char → Except TemplateError (List Char)
  | [] => .ok []
  | '{' :: '{' :: rest => (fillText facts rest).map ('{' :: ·)
  | '}' :: '}' :: rest => (fillText facts rest).map ('}' :: ·)
  | ['{'] => .error .loneOpeningBrace
  | '{' :: rest => fillPlaceholder facts [] rest
  | '}' :: _ => .error .loneClosingBrace
  | c :: rest => (fillText facts rest).map (c :: ·)

/-- Fills in a template from inside a placeholder, whose name so far is given in
reverse. -/
def fillPlaceholder (facts : Facts) (name : List Char) :
    List Char → Except TemplateError (List Char)
  | [] => .error .unclosedPlaceholder
  | '}' :: rest => do
    let value ← lookup facts (String.ofList name.reverse)
    let filled ← fillText facts rest
    return value ++ filled
  | c :: rest => fillPlaceholder facts (c :: name) rest
end

/-- Fills in a template. -/
def fill (template : String) (facts : Facts) : Except TemplateError String :=
  (fillText facts template.toList).map String.ofList

end Template

example : (Template.fill "\x7b\x7b\x7bn\x7d\x7d\x7d" [("n", .int 5)]).toOption = some "\x7b5\x7d" := by
  decide +kernel

end CodeSmell
