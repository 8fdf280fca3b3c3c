/-
Parameters, type parameters and decorators.

Each entry of a parameter list is one node, whatever it holds: decorators,
modifiers, a pattern, a type and a default.
-/
import CodeSmell.Grammar.Pattern

set_option autoImplicit false

namespace CodeSmell.Grammar

open Reader

/-- Words that say who may use a member. -/
def accessWords : List String := ["public", "private", "protected"]

/-- The node kind of a modifier that has a node of its own. -/
def modifierKind? (word : String) : Option String :=
  if accessWords.contains word then some "accessibility_modifier"
  else if word == "override" then some "override_modifier"
  else none

/-- Takes a modifier; those with a node of their own yield it. -/
def modifier : Reader (List SyntaxNode) := do
  let t ← peek
  match modifierKind? t.text with
  | some kind => return [← leaf kind]
  | none =>
    let _ ← take
    return []

/-- A colon and the type after it. -/
def typeMark (inner : Rules) : Reader SyntaxNode := do
  let start ← place
  takeSign ":"
  let t ← inner (.type true)
  node "type_annotation" start [t]

/-- A colon and a type, if they are there, filling a field. -/
def typeMark? (inner : Rules) (field : String) : Reader (List SyntaxNode) := do
  if ← atSign ":" then return [filling field (← typeMark inner)] else return []

/-- An `=` and an expression, if they are there. -/
def initializer? (inner : Rules) (allowIn : Bool) : Reader (List SyntaxNode) := do
  if ← takeSign? "=" then return [filling "value" (← inner (.assignment allowIn false))]
  else return []

/-! ## Lists of types -/

/-- Types between angle brackets. -/
def typeArguments (inner : Rules) : Reader SyntaxNode := do
  let start ← place
  takeSign "<"
  let types ← entries ">" do return [← inner (.type true)]
  require (!types.isEmpty)
  node "type_arguments" start types

/-- Types between angle brackets, if they are there. -/
def typeArguments? (inner : Rules) : Reader (List SyntaxNode) := do
  if ← atSign "<" then return [filling "type_arguments" (← typeArguments inner)] else return []

/-- Takes the modifiers of a type parameter. -/
def skipVariance : Reader Unit :=
  iterate (fun () => do
    let t ← peek
    let second ← peekSecond
    if t.isWord "const" || t.isWord "in" || (t.isWord "out" && second.isName) then
      let _ ← take
      return some ()
    else return none) ()

/-- A type parameter. -/
def typeParameter (inner : Rules) : Reader SyntaxNode := do
  let start ← place
  skipVariance
  let n ← name "type_identifier"
  let constraintStart ← place
  let constraint ←
    if ← takeWord? "extends" then do
      let t ← inner (.type true)
      pure [filling "constraint" (← node "constraint" constraintStart [t])]
    else pure []
  let defaultStart ← place
  let default ←
    if ← takeSign? "=" then do
      let t ← inner (.type true)
      pure [filling "value" (← node "default_type" defaultStart [t])]
    else pure []
  node "type_parameter" start (filling "name" n :: constraint ++ default)

/-- Type parameters between angle brackets. -/
def typeParameters (inner : Rules) : Reader SyntaxNode := do
  let start ← place
  takeSign "<"
  let parameters ← entries ">" do return [← typeParameter inner]
  require (!parameters.isEmpty)
  node "type_parameters" start parameters

/-- Type parameters, if they are there. -/
def typeParameters? (inner : Rules) : Reader (List SyntaxNode) := do
  if ← atSign "<" then return [filling "type_parameters" (← typeParameters inner)] else return []

/-! ## Arguments and decorators -/

/-- An argument, or an element of an array. -/
def argument (inner : Rules) : Reader SyntaxNode := do
  let start ← place
  if ← takeSign? "..." then
    let value ← inner (.assignment true false)
    node "spread_element" start [value]
  else inner (.assignment true false)

/-- Arguments between parentheses. -/
def arguments (inner : Rules) : Reader SyntaxNode := do
  let start ← place
  takeSign "("
  let values ← entries ")" do return [← argument inner]
  node "arguments" start values

/-- Members and calls after the name of a decorator. -/
def decoratorTail (inner : Rules) (start : Nat) (target : SyntaxNode) : Reader SyntaxNode :=
  iterate (fun target => do
    let t ← peek
    if t.isSign "." then
      let _ ← take
      let property ← anyWord "property_identifier"
      return some (← node "member_expression" start
        [filling "object" target, filling "property" property])
    else if t.isSign "(" then
      let values ← arguments inner
      return some (← node "call_expression" start
        [filling "function" target, filling "arguments" values])
    else if t.isSign "<" then
      let types ← typeArguments inner
      let values ← arguments inner
      return some (← node "call_expression" start
        [filling "function" target, filling "type_arguments" types, filling "arguments" values])
    else return none) target

/-- A decorator. -/
def decorator (inner : Rules) : Reader SyntaxNode := do
  let start ← place
  takeSign "@"
  let targetStart ← place
  if ← takeSign? "(" then
    let value ← inner (.expression true)
    takeSign ")"
    let target ← node "parenthesized_expression" targetStart [value]
    return filling "decorator" (← node "decorator" start [target])
  else
    let target ← identifier
    let target ← decoratorTail inner targetStart target
    return filling "decorator" (← node "decorator" start [target])

/-- Any number of decorators. -/
def decorators (inner : Rules) : Reader (List SyntaxNode) :=
  whenever (atSign "@") do return [← decorator inner]

/-! ## Parameters -/

/-- Words that may stand in front of a parameter. -/
def parameterModifiers : List String := accessWords ++ ["override", "readonly"]

/-- The next token is a modifier of a parameter, and not its name. -/
def atParameterModifier : Reader Bool := do
  let t ← peek
  if t.isWordOf parameterModifiers then
    let second ← peekSecond
    return second.isNameLike || second.isSignOf ["[", openBrace]
  else return false

/-- What a parameter binds. -/
def parameterTarget (inner : Rules) : Reader SyntaxNode := do
  if ← atWord "this" then leaf "this"
  else if ← atSign "..." then restPattern inner
  else inner .pattern

/-- A parameter. -/
def parameter (inner : Rules) : Reader SyntaxNode := do
  let start ← place
  let decorators ← decorators inner
  let modifiers ← whenever atParameterModifier modifier
  let target ← parameterTarget inner
  let isOptional ← takeSign? "?"
  let type ← typeMark? inner "type"
  let value ← initializer? inner true
  node (if isOptional then "optional_parameter" else "required_parameter") start
    (decorators ++ modifiers ++ filling "pattern" target :: type ++ value)

/-- Parameters between parentheses. -/
def parameters (inner : Rules) : Reader SyntaxNode := do
  let start ← place
  takeSign "("
  let ps ← entries ")" do return [← parameter inner]
  node "formal_parameters" start ps

/-! ## Signatures -/

/-- The next words say what a parameter is when the function returns. -/
def atPredicate : Reader Bool := do
  let t ← peek
  let second ← peekSecond
  return (t.isName || t.isWord "this") && second.isWord "is" && !second.afterLine

/-- What a parameter is when the function returns. -/
def predicate (inner : Rules) : Reader SyntaxNode := do
  let start ← place
  let n ← if ← atWord "this" then leaf "this" else identifier
  takeWord "is"
  let t ← inner (.type true)
  node "type_predicate" start [filling "name" n, filling "type" t]

/-- The next words assert something of a parameter. -/
def atAsserts : Reader Bool := do
  let t ← peek
  let second ← peekSecond
  return t.isWord "asserts" && (second.isName || second.isWord "this") && !second.afterLine

/-- What a function returns: a type, or what it says of a parameter. -/
def returned (inner : Rules) : Reader SyntaxNode := do
  let start ← place
  if ← atAsserts then
    let _ ← take
    let what ←
      if ← atPredicate then predicate inner
      else if ← atWord "this" then leaf "this" else identifier
    node "asserts" start [what]
  else if ← atPredicate then predicate inner
  else inner (.type true)

/-- A colon and what the function returns, if they are there. -/
def returnMark? (inner : Rules) : Reader (List SyntaxNode) := do
  let start ← place
  if ← takeSign? ":" then
    let what ← returned inner
    let kind :=
      if what.kind == "asserts" then "asserts_annotation"
      else if what.kind == "type_predicate" then "type_predicate_annotation"
      else "type_annotation"
    return [filling "return_type" (← node kind start [what])]
  else return []

/-- Type parameters, parameters, and what is returned. -/
def signature (inner : Rules) : Reader (List SyntaxNode) := do
  let types ← typeParameters? inner
  let ps ← parameters inner
  let result ← returnMark? inner
  return types ++ filling "parameters" ps :: result

end CodeSmell.Grammar
