/-
Expressions.

From the inside out: primary expressions; operands, which are primary expressions
with members, calls and assertions behind them; operands with operators in front or
a step behind; operators between them; conditionals, assignments and arrow
functions; and expressions between commas.

An angle bracket behind an operand opens types if they can be read and what follows
them could not go on with a comparison.
-/
import CodeSmell.Grammar.Markup

set_option autoImplicit false

namespace CodeSmell.Grammar

open Reader

/-! ## Objects -/

/-- An entry of an object that begins with a key. -/
def keyedEntry (inner : Rules) : Reader SyntaxNode := do
  let t ← peek
  let second ← peekSecond
  if t.isName && second.isSignOf [",", closeBrace] then leaf "shorthand_property_identifier"
  else if t.isName && second.isSign "=" then
    -- A default shows that the object will turn out to be a pattern.
    let target ← leaf "shorthand_property_identifier_pattern"
    takeSign "="
    let value ← inner (.assignment true false)
    node "object_assignment_pattern" t.start [filling "left" target, filling "right" value]
  else
    let (isMarked, marks) ← methodMarks
    let k ← key inner
    if (← peek).isSignOf ["(", "<"] then
      let parts ← signature inner
      let b ← body inner
      node "method_definition" t.start (marks ++ filling "name" k :: parts ++ [b])
    else
      require (!isMarked)
      takeSign ":"
      let value ← inner (.assignment true false)
      node "pair" t.start [filling "key" k, filling "value" value]

/-- An entry of an object. -/
def objectEntry (inner : Rules) : Reader SyntaxNode := do
  if (← peek).isSign "..." then argument inner
  else if (← peek).isSign "*" then
    let start ← place
    let _ ← take
    let k ← key inner
    let parts ← signature inner
    let b ← body inner
    node "method_definition" start (filling "name" k :: parts ++ [b])
  else keyedEntry inner

/-! ## Primary expressions -/

/-- A regular expression. -/
def regularExpression : Reader SyntaxNode := do
  let s ← read
  let start ← place
  match s.regexEnd? start with
  | some (slash, stop) =>
    resume stop
    let flags :=
      if slash + 1 < stop then [filling "flags" (s.node "regex_flags" (slash + 1) stop [])]
      else []
    node "regex" start (filling "pattern" (s.node "regex_pattern" (start + 1) slash []) :: flags)
  | none => refuse

/-- An expression that begins with `import`. -/
def importExpression : Reader SyntaxNode := do
  let start ← place
  takeWord "import"
  if ← takeSign? "." then
    takeWord "meta"
    node "meta_property" start []
  else
    require (← atSign "(")
    node "import" start []

/-- An expression that is one word. -/
def wordKind? (word : String) : Option String :=
  if ["this", "super", "null", "true", "false", "undefined"].contains word then some word
  else none

/-- An expression that begins with a word. -/
def wordExpression (inner : Rules) : Reader SyntaxNode := do
  let t ← peek
  if ← atFunction then functionExpression inner
  else if t.isWord "class" then classExpression inner
  else if t.isWord "new" then inner .creation
  else if t.isWord "import" then importExpression
  else if t.kind == .word then
    match wordKind? t.text with
    | some kind => leaf kind
    | none => identifier
  else identifier

/-- A primary expression. -/
def primary (inner : Rules) : Reader SyntaxNode := do
  let t ← peek
  match t.kind with
  | .word | .escapedWord => wordExpression inner
  | .number => leaf "number"
  | .string => quotedText
  | .template => template inner
  | .privateName =>
    require ((← peekSecond).isWord "in")
    leaf "private_property_identifier"
  | .sign =>
    if t.isSignOf ["/", "/="] then regularExpression
    else if ← takeSign? "(" then
      let value ← inner (.expression true)
      takeSign ")"
      node "parenthesized_expression" t.start [value]
    else if ← takeSign? "[" then
      let values ← entries "]" do
        -- Nothing between two commas is an element that is left out.
        if ← atSign "," then return [] else return [← argument inner]
      node "array" t.start values
    else if ← takeSign? openBrace then
      let parts ← entries closeBrace do return [← objectEntry inner]
      node "object" t.start parts
    else if t.isSign "@" then classExpression inner
    else if t.isSign "<" && (← read).markup then inner .element
    else refuse
  | _ => refuse

/-! ## Operands -/

/-- Signs that can only go on with an expression as operators. -/
def joiningSigns : List String :=
  ["==", "!=", "===", "!==", "&&", "||", "??", "|", "&", "^", "*", "%", "**", "?", ":", ";",
   ",", ")", "]", closeBrace, ".", "?.", "=", "=>", "/", "/="]

/-- Types that were just read behind an operand are arguments, to judge by what
follows. -/
def endsTypeArguments : Reader Bool := do
  let t ← peek
  if t.isSign "(" || t.kind == .template then return true
  else if t.isSignOf ["<", ">", "+", "-"] then return false
  else
    let joins := t.isSignOf joiningSigns || t.isSignOf augmentedSigns
      || t.isWordOf ["in", "instanceof", "as", "satisfies", "of", "extends", "implements"]
    return t.afterLine || t.kind == .finish || joins

/-- Types behind an operand, if the angle bracket that is next opens types. -/
def operandTypes? (inner : Rules) : Reader (Option SyntaxNode) := attempt do
  let types ← typeArguments inner
  require (← endsTypeArguments)
  return types

/-- A member behind a point. -/
def memberName : Reader SyntaxNode := do
  if (← peek).kind == .privateName then leaf "private_property_identifier"
  else anyWord "property_identifier"

/-- An index in brackets behind an operand and, perhaps, an optional link. -/
def subscript (inner : Rules) (start : Nat) (target : SyntaxNode) (link : List SyntaxNode) :
    Reader SyntaxNode := do
  takeSign "["
  let index ← inner (.expression true)
  takeSign "]"
  node "subscript_expression" start (filling "object" target :: link ++ [filling "index" index])

/-- A call behind an operand, with the link and the types that stand in front of it. -/
def call (inner : Rules) (start : Nat) (target : SyntaxNode) (front : List SyntaxNode) :
    Reader SyntaxNode := do
  let values ←
    if (← peek).kind == .template then template inner else arguments inner
  node "call_expression" start
    (filling "function" target :: front ++ [filling "arguments" values])

/-- What stands behind an optional link. -/
def optionalLink (inner : Rules) (start : Nat) (target : SyntaxNode) : Reader SyntaxNode := do
  require (← atSign "?.")
  let link := filling "optional_chain" (← leaf "optional_chain")
  let t ← peek
  if t.isSign "[" then subscript inner start target [link]
  else if t.isSign "(" then call inner start target [link]
  else if t.isSign "<" then
    let types ← typeArguments inner
    require (← atSign "(")
    call inner start target [link, filling "type_arguments" types]
  else
    let property ← memberName
    node "member_expression" start [filling "object" target, link, filling "property" property]

/-- What stands behind an operand: a member, an index, an assertion, and if calls are
allowed a call or types. -/
def furtherLink (inner : Rules) (calls : Bool) (start : Nat) (target : SyntaxNode) :
    Reader (Option SyntaxNode) := do
  let t ← peek
  if t.isSign "." then
    let _ ← take
    let property ← memberName
    return some (← node "member_expression" start
      [filling "object" target, filling "property" property])
  else if t.isSign "[" then return some (← subscript inner start target [])
  else if t.kind == .template then return some (← call inner start target [])
  -- On a line of its own the sign negates what follows.
  else if t.isSign "!" && !t.afterLine then
    let _ ← take
    return some (← node "non_null_expression" start [target])
  -- Behind `new`, the first parentheses hold what the object is made from.
  else if !calls then return none
  else if t.isSign "(" then return some (← call inner start target [])
  else if t.isSign "?." then return some (← optionalLink inner start target)
  else if t.isSign "<" then
    match ← operandTypes? inner with
    | none => return none
    | some types =>
      let types := filling "type_arguments" types
      let next ← peek
      if next.isSign "(" || next.kind == .template then
        return some (← call inner start target [types])
      else return some (← node "instantiation_expression" start [target, types])
  else return none

/-- An operand of operators. -/
def operand (inner : Rules) : Reader SyntaxNode := do
  let start ← place
  let first ← primary inner
  iterate (furtherLink inner true start) first

/-- An expression that begins with `new`. -/
def creation (inner : Rules) : Reader SyntaxNode := do
  let start ← place
  takeWord "new"
  if ← takeSign? "." then
    takeWord "target"
    node "meta_property" start []
  else
    let targetStart ← place
    let first ← if ← atWord "new" then inner .creation else primary inner
    let target ← iterate (furtherLink inner false targetStart) first
    let types ←
      if ← atSign "<" then do pure ((← operandTypes? inner).map (filling "type_arguments")).toList
      else pure []
    let values ←
      if ← atSign "(" then do pure [filling "arguments" (← arguments inner)] else pure []
    node "new_expression" start (filling "constructor" target :: types ++ values)

/-! ## Operators around an operand -/

/-- Words that are operators in front of an operand. -/
def unaryWords : List String := ["typeof", "void", "delete"]

/-- An operand with the operators in front of it and a step behind it. -/
def unary (inner : Rules) : Reader SyntaxNode := do
  let t ← peek
  let onOperand (kind : String) : Reader SyntaxNode := do
    let _ ← take
    let value ← inner .unary
    node kind t.start [if kind == "await_expression" then value else filling "argument" value]
  if t.isSignOf ["!", "~", "+", "-"] || t.isWordOf unaryWords then onOperand "unary_expression"
  else if t.isWord "await" then onOperand "await_expression"
  else if t.isSignOf ["++", "--"] then onOperand "update_expression"
  else if t.isSign "<" && !(← read).markup then
    let types ← typeArguments inner
    let value ← inner .unary
    node "type_assertion" t.start [types, value]
  else
    let value ← inner .operand
    let next ← peek
    if next.isSignOf ["++", "--"] && !next.afterLine then
      let _ ← take
      node "update_expression" t.start [filling "argument" value]
    else return value

/-! ## Whole expressions -/

/-- The next token cannot begin the value of a `yield`. -/
def endsYield : Reader Bool := do
  let t ← peek
  return t.afterLine || t.kind == .finish
    || t.isSignOf [")", "]", closeBrace, ",", ";", ":"] || t.isWord "in" || t.isWord "of"

/-- A `yield`, with its value if it has one. -/
def yieldExpression (inner : Rules) (allowIn : Bool) : Reader SyntaxNode := do
  let start ← place
  takeWord "yield"
  let delegates ← takeSign? "*"
  let ends ← endsYield
  let value ←
    if !delegates && ends then pure [] else do pure [← inner (.assignment allowIn false)]
  node "yield_expression" start value

/-- The rest of a conditional after its condition. -/
def conditional (inner : Rules) (allowIn inConditional : Bool) (start : Nat)
    (condition : SyntaxNode) : Reader SyntaxNode := do
  takeSign "?"
  let consequence ← inner (.assignment true true)
  takeSign ":"
  let alternative ← inner (.assignment allowIn inConditional)
  node "ternary_expression" start
    [filling "condition" condition, filling "consequence" consequence,
     filling "alternative" alternative]

/-- The rest of an assignment after its left side. -/
def assigned (inner : Rules) (allowIn inConditional : Bool) (start : Nat) (left : SyntaxNode) :
    Reader SyntaxNode := do
  takeSign "="
  match asPattern? left with
  | none => refuse
  | some target =>
    let right ← inner (.assignment allowIn inConditional)
    node "assignment_expression" start [filling "left" target, filling "right" right]

/-- Kinds of expressions that an operator may change. -/
def changedKinds : List String :=
  ["identifier", "member_expression", "subscript_expression", "non_null_expression",
   "parenthesized_expression", "undefined"]

/-- The rest of a change by an operator after its left side. -/
def augmented (inner : Rules) (allowIn inConditional : Bool) (start : Nat) (left : SyntaxNode)
    (operator : String) : Reader SyntaxNode := do
  require (changedKinds.contains left.kind)
  takeOperator operator
  let right ← inner (.assignment allowIn inConditional)
  node "augmented_assignment_expression" start [filling "left" left, filling "right" right]

/-- One expression that is no arrow function. -/
def plainAssignment (inner : Rules) (allowIn inConditional : Bool) : Reader SyntaxNode := do
  let start ← place
  let left ← operation inner allowIn
  let t ← peek
  let operator := (← read).operatorAt t
  if operator == "?" then conditional inner allowIn inConditional start left
  else if operator == "=" then assigned inner allowIn inConditional start left
  else if augmentedSigns.contains operator then
    augmented inner allowIn inConditional start left operator
  else return left

/-- One expression. -/
def assignment (inner : Rules) (allowIn inConditional : Bool) : Reader SyntaxNode := do
  if ← atWord "yield" then yieldExpression inner allowIn
  else if ← atBareArrow then bareArrow inner allowIn inConditional
  else
    match ← parenthesizedArrow? inner allowIn inConditional with
    | some f => return f
    | none => plainAssignment inner allowIn inConditional

/-- One or more expressions between commas. -/
def expression (inner : Rules) (allowIn : Bool) : Reader SyntaxNode := do
  let start ← place
  let all ← sequence (inner (.assignment allowIn false))
  match all with
  | [one] => return one
  | _ => node "sequence_expression" start all

end CodeSmell.Grammar
