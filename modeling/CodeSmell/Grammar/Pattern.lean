/-
Patterns: what the left of a binding or an assignment takes apart.

A declaration spells a pattern out. In an assignment the left side is read as an
expression first, since only the `=` after it shows what it is; the expression is
then turned into the pattern it spells, or the source is refused. An object may
carry a default only in such a pattern, so one that still carries it when the
source is read was no pattern.
-/
import CodeSmell.Grammar.Name

set_option autoImplicit false

namespace CodeSmell.Grammar

open Reader

/-- A pattern with a default, if `=` follows the pattern. -/
def withDefault (inner : Rules) (start : Nat) (left : SyntaxNode) : Reader SyntaxNode := do
  if ← takeSign? "=" then
    let right ← inner (.assignment true false)
    node "assignment_pattern" start [filling "left" left, filling "right" right]
  else return left

/-- A pattern that takes the rest. -/
def restPattern (inner : Rules) : Reader SyntaxNode := do
  let start ← place
  takeSign "..."
  let target ← inner .pattern
  node "rest_pattern" start [target]

/-- The places between the brackets of an array pattern; a place may be empty. -/
def arrayEntry (inner : Rules) : Reader (List SyntaxNode) := do
  let t ← peek
  if t.isSign "," then return []
  if t.isSign "..." then return [← restPattern inner]
  let target ← inner .pattern
  return [← withDefault inner t.start target]

/-- An entry of an object pattern. -/
def objectPatternEntry (inner : Rules) : Reader (List SyntaxNode) := do
  let t ← peek
  if t.isSign "..." then return [← restPattern inner]
  let second ← peekSecond
  if t.isName && !second.isSign ":" then
    let target ← leaf "shorthand_property_identifier_pattern"
    if ← takeSign? "=" then
      let right ← inner (.assignment true false)
      return [← node "object_assignment_pattern" t.start
        [filling "left" target, filling "right" right]]
    else return [target]
  else
    let k ← key inner
    takeSign ":"
    let start ← place
    let target ← inner .pattern
    let value ← withDefault inner start target
    return [← node "pair_pattern" t.start [filling "key" k, filling "value" value]]

/-- A pattern in a declaration. -/
def pattern (inner : Rules) : Reader SyntaxNode := do
  let start ← place
  if ← takeSign? "[" then
    let parts ← entries "]" (arrayEntry inner)
    node "array_pattern" start parts
  else if ← takeSign? openBrace then
    let parts ← entries closeBrace (objectPatternEntry inner)
    node "object_pattern" start parts
  else identifier

/-! ## Patterns spelled as expressions -/

/-- Kinds of expressions that can be assigned to as they are. -/
def targetKinds : List String :=
  ["identifier", "member_expression", "subscript_expression", "non_null_expression",
   "parenthesized_expression", "undefined", "object_pattern", "array_pattern"]

/-- Kinds of entries that mean the same in a pattern. -/
def keptEntryKinds : List String := ["object_assignment_pattern", "rest_pattern"]

mutual
/-- The pattern that an expression spells. -/
def asPattern? : SyntaxNode → Option SyntaxNode
  | ⟨kind, named, start, stop, text, isError, isMissing, hasError, field, children⟩ =>
    let rebuilt (kind : String) (children : List SyntaxNode) : SyntaxNode :=
      ⟨kind, named, start, stop, text, isError, isMissing, hasError, field, children⟩
    if kind == "object" then (asEntries? children).map (rebuilt "object_pattern")
    else if kind == "array" then (asEntries? children).map (rebuilt "array_pattern")
    else if targetKinds.contains kind then some (rebuilt kind children)
    else none

/-- The entries of a pattern that the entries of an object or an array spell. -/
def asEntries? : List SyntaxNode → Option (List SyntaxNode)
  | [] => some []
  | n :: rest => do
    let n ← asEntry? n
    let rest ← asEntries? rest
    return n :: rest

/-- The entry of a pattern that an entry spells. -/
def asEntry? : SyntaxNode → Option SyntaxNode
  | ⟨kind, named, start, stop, text, isError, isMissing, hasError, field, children⟩ =>
    let rebuilt (kind : String) (children : List SyntaxNode) : SyntaxNode :=
      ⟨kind, named, start, stop, text, isError, isMissing, hasError, field, children⟩
    if kind == "shorthand_property_identifier" then
      some (rebuilt "shorthand_property_identifier_pattern" children)
    else if kind == "pair" then (asPairParts? children).map (rebuilt "pair_pattern")
    else if kind == "spread_element" then (asEntries? children).map (rebuilt "rest_pattern")
    else if kind == "assignment_expression" then some (rebuilt "assignment_pattern" children)
    else if keptEntryKinds.contains kind then some (rebuilt kind children)
    else if kind == "object" then (asEntries? children).map (rebuilt "object_pattern")
    else if kind == "array" then (asEntries? children).map (rebuilt "array_pattern")
    else if targetKinds.contains kind then some (rebuilt kind children)
    else none

/-- The key of a pair, and the pattern that its value spells. -/
def asPairParts? : List SyntaxNode → Option (List SyntaxNode)
  | [k, value] => do
    let value ← asEntry? value
    return [k, value]
  | _ => none
end

mutual
/-- Some object in the tree carries a default that no pattern took up. -/
def straysDefault : SyntaxNode → Bool
  | ⟨kind, _, _, _, _, _, _, _, _, children⟩ =>
    (kind == "object" && children.any (·.kind == "object_assignment_pattern"))
      || straysDefaultAny children

def straysDefaultAny : List SyntaxNode → Bool
  | [] => false
  | n :: rest => straysDefault n || straysDefaultAny rest
end

end CodeSmell.Grammar
