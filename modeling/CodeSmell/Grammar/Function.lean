/-
Functions and methods.

A function without a body is a signature. An arrow function is told from other
expressions by its head: parameters, perhaps a type, and then the arrow. The head
is tried where it might stand, and a place where it did not is remembered, so that
nested parentheses are tried once each.
-/
import CodeSmell.Grammar.Operator

set_option autoImplicit false

namespace CodeSmell.Grammar

open Reader

/-- The body of a function. -/
def body (inner : Rules) : Reader SyntaxNode := return filling "body" (← inner .block)

/-- The next words begin a function. -/
def atFunction : Reader Bool := do
  let t ← peek
  if t.isWord "function" then return true
  else if t.isWord "async" then
    let second ← peekSecond
    return second.isWord "function" && !second.afterLine
  else return false

/-- What is common to the shapes of a function: whether it generates, and its name and
signature. -/
def functionHead (inner : Rules) : Reader (Bool × List SyntaxNode) := do
  let _ ← takeWord? "async"
  takeWord "function"
  let generates ← takeSign? "*"
  let n ← if (← peek).isName then do pure [filling "name" (← identifier)] else pure []
  return (generates, n ++ (← signature inner))

/-- A function in an expression. -/
def functionExpression (inner : Rules) : Reader SyntaxNode := do
  let start ← place
  let (generates, head) ← functionHead inner
  let b ← body inner
  node (if generates then "generator_function" else "function_expression") start (head ++ [b])

/-- A function that is declared; without a body it is a signature. -/
def functionDeclaration (inner : Rules) (needsName : Bool) : Reader SyntaxNode := do
  let start ← place
  let (generates, head) ← functionHead inner
  let isNamed := head.any (·.field == some "name")
  require (isNamed || !needsName)
  if ← atSign openBrace then
    let b ← body inner
    let kind :=
      if generates then "generator_function_declaration"
      else if isNamed then "function_declaration" else "function_expression"
    node kind start (head ++ [b])
  else
    require (!generates)
    let signature ← node "function_signature" start head
    endStatement
    return signature

/-! ## Methods -/

/-- The word in front of a key belongs to the key's member. -/
def atMemberWord (words : List String) (acrossLines : Bool) : Reader Bool := do
  let t ← peek
  let second ← peekSecond
  return t.isWordOf words && (second.beginsKey || second.isSign "*")
    && (acrossLines || !second.afterLine)

/-- What stands in front of the key of a method: `async`, an accessor's word, a star.
Says whether anything does; only the accessor's word has a node. -/
def methodMarks : Reader (Bool × List SyntaxNode) := do
  let isAsync ← atMemberWord ["async"] false
  if isAsync then
    let _ ← take
  let accessor ← accessorMark?
  let generates ← takeSign? "*"
  return (isAsync || generates || !accessor.isEmpty, accessor)

/-! ## Arrow functions -/

/-- The tokens from a parenthesis on may be the head of an arrow function. -/
def mayBeParameters (opening : Token) : Reader Bool := do
  let s ← read
  let first := s.tokenAt opening.stop
  if first.isSignOf [")", "...", "[", openBrace, "@"] then return true
  else if first.isNameLike then
    let second := s.tokenAt first.stop
    return second.isSignOf [":", ",", "?", "=", ")"] || second.isNameLike
      || second.isSignOf ["[", openBrace]
  else return false

/-- In markup, an angle bracket begins type parameters only if a bound, a default or a
further parameter shows it. -/
def mayBeTypeParameters (opening : Token) : Reader Bool := do
  let s ← read
  if !s.markup then return true
  let first := s.tokenAt opening.stop
  let first := if first.isWord "const" then s.tokenAt first.stop else first
  let second := s.tokenAt first.stop
  if second.isWord "extends" then
    return !(s.tokenAt second.stop).isSignOf ["=", ">", "/"]
  else return first.isName && second.isSignOf [",", "="]

/-- The next tokens may be the head of an arrow function with parentheses. -/
def mayBeArrow : Reader Bool := do
  let t ← peek
  let opening ←
    if t.isWord "async" then do
      let second ← peekSecond
      -- At the end of a line the word is a name.
      if second.afterLine then return false
      pure second
    else pure t
  if (← get).notArrows.contains t.start then return false
  if opening.isSign "(" then mayBeParameters opening
  else if opening.isSign "<" then mayBeTypeParameters opening
  else return false

/-- The head of an arrow function with parentheses, up to its arrow. -/
def arrowHead (inner : Rules) : Reader (List SyntaxNode) := do
  let _ ← takeWord? "async"
  let head ← signature inner
  let t ← peek
  require (t.isSign "=>" && !t.afterLine)
  let _ ← take
  return head

/-- The body of an arrow function: a block or an expression. -/
def arrowBody (inner : Rules) (allowIn inConditional : Bool) : Reader SyntaxNode := do
  if ← atSign openBrace then body inner
  else return filling "body" (← inner (.assignment allowIn inConditional))

/-- Remembers that a place begins no arrow function. -/
def noteNoArrow (start : Nat) : Reader Unit :=
  modify fun c => { c with notArrows := start :: c.notArrows }

/-- An arrow function with parentheses, if one is next. In the middle of a conditional
its type must leave a colon for the conditional. -/
def parenthesizedArrow? (inner : Rules) (allowIn inConditional : Bool) :
    Reader (Option SyntaxNode) := do
  if !(← mayBeArrow) then return none
  let start ← place
  let whole (head : List SyntaxNode) : Reader SyntaxNode := do
    let b ← arrowBody inner allowIn inConditional
    node "arrow_function" start (head ++ [b])
  let before ← get
  match ← attempt (arrowHead inner) with
  | none =>
    noteNoArrow start
    return none
  | some head =>
    -- The colon read as the mark of a type may belong to the conditional. It was the
    -- mark only if another colon follows the whole function.
    if inConditional && head.any (·.field == some "return_type") then
      let found ← attempt do
        let f ← whole head
        require (← atSign ":")
        return f
      match found with
      | some f => return some f
      | none =>
        let c ← get
        set { before with notArrows := start :: c.notArrows }
        return none
    else return some (← whole head)

/-- The next tokens are an arrow function with one bare parameter. -/
def atBareArrow : Reader Bool := do
  let t ← peek
  let second ← peekSecond
  if !t.isName then return false
  if second.isSign "=>" && !second.afterLine then return true
  if t.isWord "async" && second.isName && !second.afterLine then
    let third ← thirdToken
    return third.isSign "=>" && !third.afterLine
  else return false

/-- An arrow function with one bare parameter. -/
def bareArrow (inner : Rules) (allowIn inConditional : Bool) : Reader SyntaxNode := do
  let start ← place
  if !(← peekSecond).isSign "=>" then
    let _ ← take
  let parameter ← identifier
  takeSign "=>"
  let b ← arrowBody inner allowIn inConditional
  node "arrow_function" start [filling "parameter" parameter, b]

end CodeSmell.Grammar
