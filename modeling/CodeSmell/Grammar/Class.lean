/-
Classes, interfaces and enumerations.

Decorators in front of the word `class` belong to the class and begin it, those in
front of a member stand beside the member. A member begins at its first modifier.
Whether a word is a modifier or the name of the member is told by what follows it.
-/
import CodeSmell.Grammar.Function

set_option autoImplicit false

namespace CodeSmell.Grammar

open Reader

/-! ## Members -/

/-- Words that may stand in front of a member on its line. -/
def memberWords : List String :=
  accessWords ++ ["override", "readonly", "abstract", "declare", "accessor"]

/-- The next word is a modifier of a member. -/
def atMemberModifier : Reader Bool := do
  -- Other words on a line of their own are fields; `static` never is one before a key.
  if ← atMemberWord memberWords false then return true
  else atMemberWord ["static"] true

/-- Takes the modifiers of a member: their nodes, and whether one of them says that the
member is abstract. -/
def memberModifiers : Reader (List SyntaxNode × Bool) := do
  let start : List SyntaxNode × Bool := ([], false)
  let (nodes, isAbstract) ← iterate (fun (nodes, isAbstract) => do
    if ← atMemberModifier then
      let isAbstract := isAbstract || (← atWord "abstract")
      return some ((← modifier).reverse ++ nodes, isAbstract)
    else return none) start
  return (nodes.reverse, isAbstract)

/-- A block that runs when the class is made. -/
def staticBlock (inner : Rules) : Reader SyntaxNode := do
  let start ← place
  takeWord "static"
  let b ← body inner
  node "class_static_block" start [b]

/-- A method from its parameters on: with a body, or a signature. -/
def methodTail (inner : Rules) (start : Nat) (isAbstract : Bool) (front : List SyntaxNode) :
    Reader SyntaxNode := do
  let parts ← signature inner
  if !isAbstract && (← atSign openBrace) then
    let b ← body inner
    node "method_definition" start (front ++ parts ++ [b])
  else
    let kind := if isAbstract then "abstract_method_signature" else "method_signature"
    let m ← node kind start (front ++ parts)
    endMember
    return m

/-- A field from its type on. -/
def fieldTail (inner : Rules) (start : Nat) (front : List SyntaxNode) : Reader SyntaxNode := do
  let type ← typeMark? inner "type"
  let value ← initializer? inner true
  let f ← node "public_field_definition" start (front ++ type ++ value)
  endMember
  return f

/-- A method or a field. -/
def member (inner : Rules) : Reader SyntaxNode := do
  let start ← place
  let (modifiers, isAbstract) ← memberModifiers
  if ← atIndex then
    let m ← indexSignature inner start
    endMember
    return m
  else
    let (isMarked, marks) ← methodMarks
    let k ← key inner
    if !(← takeSign? "?") then
      let _ ← takeSign? "!"
    let front := modifiers ++ marks ++ [filling "name" k]
    if (← peek).isSignOf ["(", "<"] then methodTail inner start isAbstract front
    else
      require (!isMarked)
      fieldTail inner start front

/-- An entry of the body of a class; a lone semicolon is none. -/
def classEntry (inner : Rules) : Reader (List SyntaxNode) := do
  if ← takeSign? ";" then return []
  else if ← atSign "@" then return [← decorator inner]
  else if (← atWord "static") && (← peekSecond).isSign openBrace then
    return [← staticBlock inner]
  else return [← member inner]

/-- The body of a class. -/
def classBody (inner : Rules) : Reader SyntaxNode := do
  let start ← place
  takeSign openBrace
  let members ← whenever (return !(← atSign closeBrace)) (classEntry inner)
  takeSign closeBrace
  node "class_body" start members

/-! ## Heads -/

/-- What a class extends. -/
def extendsClause (inner : Rules) : Reader (List SyntaxNode) := do
  let start ← place
  if ← takeWord? "extends" then
    let value ← inner .operand
    let types ← typeArguments? inner
    return [← node "extends_clause" start (filling "value" value :: types)]
  else return []

/-- The types after a word. -/
def typesAfter (inner : Rules) (word kind : String) : Reader (List SyntaxNode) := do
  let start ← place
  if ← takeWord? word then
    let types ← sequence (namedType inner)
    return [← node kind start types]
  else return []

/-- What a class extends and implements. -/
def heritage (inner : Rules) : Reader (List SyntaxNode) := do
  let start ← place
  let extended ← extendsClause inner
  let implemented ← typesAfter inner "implements" "implements_clause"
  if (extended ++ implemented).isEmpty then return []
  else return [← node "class_heritage" start (extended ++ implemented)]

/-- The next word is the name of the class, and not what follows it. -/
def atClassName : Reader Bool := do
  let t ← peek
  -- The word is the name of the class only where it comes twice.
  if t.isWord "implements" then return (← peekSecond).isWord "implements"
  else return t.isName

/-- A class from its own word on, begun at a place by its decorators. -/
def classFrom (inner : Rules) (kind : String) (start : Nat) (decorators : List SyntaxNode)
    (needsName : Bool) : Reader SyntaxNode := do
  takeWord "class"
  let n ←
    if ← atClassName then do pure [filling "name" (← name "type_identifier")] else pure []
  require (!needsName || !n.isEmpty)
  let types ← typeParameters? inner
  let parents ← heritage inner
  let members ← classBody inner
  node kind start (decorators ++ n ++ types ++ parents ++ [filling "body" members])

/-- A class in an expression. -/
def classExpression (inner : Rules) : Reader SyntaxNode := do
  let start ← place
  let decorators ← decorators inner
  classFrom inner "class" start decorators false

/-- The next words begin a class, its decorators aside. -/
def atClass : Reader Bool := do
  let t ← peek
  if t.isWord "class" then return true
  else if t.isWord "abstract" then
    let second ← peekSecond
    return second.isWord "class" && !second.afterLine
  else return false

/-- A class that is declared, begun at a place by its decorators. -/
def classDeclaration (inner : Rules) (start : Nat) (decorators : List SyntaxNode)
    (needsName : Bool) : Reader SyntaxNode := do
  if ← takeWord? "abstract" then
    classFrom inner "abstract_class_declaration" start decorators needsName
  else classFrom inner "class_declaration" start decorators needsName

/-! ## Interfaces and enumerations -/

/-- An interface. -/
def interface (inner : Rules) : Reader SyntaxNode := do
  let start ← place
  takeWord "interface"
  let n ← name "type_identifier"
  let types ← typeParameters? inner
  let parents ← typesAfter inner "extends" "extends_type_clause"
  let members ← typeMembers inner "interface_body"
  node "interface_declaration" start
    (filling "name" n :: types ++ parents ++ [filling "body" members])

/-- A member of an enumeration. -/
def enumMember (inner : Rules) : Reader SyntaxNode := do
  let start ← place
  let k ← key inner
  if ← takeSign? "=" then
    let value ← inner (.assignment true false)
    node "enum_assignment" start [filling "name" k, filling "value" value]
  else return filling "name" k

/-- An enumeration. -/
def enumeration (inner : Rules) : Reader SyntaxNode := do
  let start ← place
  let _ ← takeWord? "const"
  takeWord "enum"
  let n ← identifier
  let bodyStart ← place
  takeSign openBrace
  let members ← entries closeBrace do return [← enumMember inner]
  let members ← node "enum_body" bodyStart members
  node "enum_declaration" start [filling "name" n, filling "body" members]

end CodeSmell.Grammar
