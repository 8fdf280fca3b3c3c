/-
Statements.

Most statements begin with a word of their own. Some of these words are names
elsewhere, so the words after them decide: a declaration's word stands on one line
with the name it declares. What is none of these is an expression, or a label in
front of a statement.
-/
import CodeSmell.Grammar.Expression

set_option autoImplicit false

namespace CodeSmell.Grammar

open Reader

/-- An expression between parentheses. -/
def condition (inner : Rules) : Reader SyntaxNode := do
  let start ← place
  takeSign "("
  let value ← inner (.expression true)
  takeSign ")"
  node "parenthesized_expression" start [value]

/-- Statements between braces. -/
def block (inner : Rules) : Reader SyntaxNode := do
  let start ← place
  takeSign openBrace
  let statements ← whenever (return !(← atSign closeBrace)) do return [← inner .statement]
  takeSign closeBrace
  node "statement_block" start statements

/-! ## Variables -/

/-- The next words declare variables. -/
def atVariables : Reader Bool := do
  let t ← peek
  if t.isWord "var" then return true
  else if t.isWord "const" then return !(← peekSecond).isWord "enum"
  else if t.isWord "let" then
    let second ← peekSecond
    return second.isName || second.isSignOf ["[", openBrace]
  else return false

/-- A variable with its type and value. -/
def variableDeclarator (inner : Rules) (allowIn : Bool) : Reader SyntaxNode := do
  let start ← place
  let target ← inner .pattern
  let _ ← takeSign? "!"
  let type ← typeMark? inner "type"
  let value ← initializer? inner allowIn
  node "variable_declarator" start (filling "name" target :: type ++ value)

/-- The kind of a declaration that begins with a word. -/
def variablesKind (word : String) : String :=
  if word == "var" then "variable_declaration" else "lexical_declaration"

/-- A declaration of variables. -/
def variableDeclaration (inner : Rules) : Reader SyntaxNode := do
  let start ← place
  let word ← take
  let all ← sequence (variableDeclarator inner true)
  endStatement
  node (variablesKind word.text) start all

/-! ## Choices and loops -/

/-- A choice by a condition. -/
def ifStatement (inner : Rules) : Reader SyntaxNode := do
  let start ← place
  takeWord "if"
  let test ← condition inner
  let consequence ← inner .statement
  let alternativeStart ← place
  let alternative ←
    if ← takeWord? "else" then do
      let s ← inner .statement
      pure [filling "alternative" (← node "else_clause" alternativeStart [s])]
    else pure []
  node "if_statement" start
    (filling "condition" test :: filling "consequence" consequence :: alternative)

/-- The rest of a loop over the members of a value, after the left side. -/
def forMembers (inner : Rules) (start : Nat) (left : List SyntaxNode) : Reader SyntaxNode := do
  let word ← take
  let value ←
    if word.text == "of" then inner (.assignment true false) else inner (.expression true)
  takeSign ")"
  let b ← inner .statement
  node "for_in_statement" start (left ++ [filling "right" value, filling "body" b])

/-- The rest of a loop with a condition and a step, after its beginning. -/
def forSteps (inner : Rules) (start : Nat) (first : List SyntaxNode) : Reader SyntaxNode := do
  takeSign ";"
  let test ← if ← atSign ";" then pure [] else do pure [← inner (.expression true)]
  takeSign ";"
  let step ← if ← atSign ")" then pure [] else do pure [← inner (.expression true)]
  takeSign ")"
  let b ← inner .statement
  node "for_statement" start
    (first ++ test.map (filling "condition") ++ step.map (filling "increment")
      ++ [filling "body" b])

/-- The next word goes on with a loop over members. -/
def atMembersWord : Reader Bool := return (← peek).isWordOf ["of", "in"]

/-- A loop that begins with a declaration of variables. -/
def forVariables (inner : Rules) (start : Nat) : Reader SyntaxNode := do
  let declarationStart ← place
  let word ← take
  let targetStart ← place
  let target ← inner .pattern
  if ← atMembersWord then forMembers inner start [filling "left" target]
  else
    let _ ← takeSign? "!"
    let type ← typeMark? inner "type"
    let value ← initializer? inner false
    -- Members may be gone through with the type of a member stated.
    if value.isEmpty && (← atMembersWord) then
      forMembers inner start (filling "left" target :: type)
    else
      let first ← node "variable_declarator" targetStart (filling "name" target :: type ++ value)
      let rest ← whenever (takeSign? ",") do return [← variableDeclarator inner false]
      let all ← node (variablesKind word.text) declarationStart (first :: rest)
      forSteps inner start [filling "initializer" all]

/-- A loop that begins with an expression or with nothing. -/
def forExpression (inner : Rules) (start : Nat) : Reader SyntaxNode := do
  if ← atSign ";" then forSteps inner start []
  else
    let first ← inner (.expression false)
    if ← atMembersWord then
      match asPattern? first with
      | some target => forMembers inner start [filling "left" target]
      | none => refuse
    else forSteps inner start [filling "initializer" first]

/-- A loop with a head between parentheses. -/
def forStatement (inner : Rules) : Reader SyntaxNode := do
  let start ← place
  takeWord "for"
  let _ ← takeWord? "await"
  takeSign "("
  let declares ←
    if (← atWord "let") && (← peekSecond).isWord "of" then do
      -- Both words may be names: what follows tells a variable `of` from the members of
      -- `let`.
      let third ← thirdToken
      pure (third.isSignOf ["=", ";", ","] || third.isWordOf ["of", "in"])
    else atVariables
  if declares then forVariables inner start else forExpression inner start

/-- A loop with its condition in front. -/
def whileStatement (inner : Rules) : Reader SyntaxNode := do
  let start ← place
  takeWord "while"
  let test ← condition inner
  let b ← inner .statement
  node "while_statement" start [filling "condition" test, filling "body" b]

/-- A loop with its condition behind. -/
def doStatement (inner : Rules) : Reader SyntaxNode := do
  let start ← place
  takeWord "do"
  let b ← inner .statement
  takeWord "while"
  let test ← condition inner
  let _ ← takeSign? ";"
  node "do_statement" start [filling "body" b, filling "condition" test]

/-- The word `break` or `continue`, with a label if one stands on the line. -/
def jump (kind : String) : Reader SyntaxNode := do
  let start ← place
  let _ ← take
  let t ← peek
  let label ←
    if t.isName && !t.afterLine then do pure [filling "label" (← leaf "statement_identifier")]
    else pure []
  endStatement
  node kind start label

/-- The word `return`, with a value if one stands on the line. -/
def returnStatement (inner : Rules) : Reader SyntaxNode := do
  let start ← place
  takeWord "return"
  let t ← peek
  let ends := t.afterLine || t.kind == .finish || t.isSignOf [";", closeBrace]
  let value ← if ends then pure [] else do pure [← inner (.expression true)]
  endStatement
  node "return_statement" start value

/-- The word `throw` and a value on its line. -/
def throwStatement (inner : Rules) : Reader SyntaxNode := do
  let start ← place
  takeWord "throw"
  require (!(← peek).afterLine)
  let value ← inner (.expression true)
  endStatement
  node "throw_statement" start [value]

/-! ## Cases and failures -/

/-- The statements of a case. -/
def caseBody (inner : Rules) : Reader (List SyntaxNode) :=
  whenever
    (do
      let t ← peek
      return !t.isSign closeBrace && !t.isWordOf ["case", "default"])
    do return [filling "body" (← inner .statement)]

/-- A case of a switch. -/
def switchCase (inner : Rules) : Reader SyntaxNode := do
  let start ← place
  if ← takeWord? "default" then
    takeSign ":"
    node "switch_default" start (← caseBody inner)
  else
    takeWord "case"
    let value ← inner (.expression true)
    takeSign ":"
    node "switch_case" start (filling "value" value :: (← caseBody inner))

/-- A choice among cases. -/
def switchStatement (inner : Rules) : Reader SyntaxNode := do
  let start ← place
  takeWord "switch"
  let value ← condition inner
  let bodyStart ← place
  takeSign openBrace
  let cases ← whenever (return !(← atSign closeBrace)) do return [← switchCase inner]
  takeSign closeBrace
  let b ← node "switch_body" bodyStart cases
  node "switch_statement" start [filling "value" value, filling "body" b]

/-- What is done about a failure. -/
def catchClause (inner : Rules) : Reader (List SyntaxNode) := do
  let start ← place
  if ← takeWord? "catch" then
    let parameter ←
      if ← takeSign? "(" then do
        let target ← inner .pattern
        let type ← typeMark? inner "type"
        takeSign ")"
        pure (filling "parameter" target :: type)
      else pure []
    let b ← body inner
    return [filling "handler" (← node "catch_clause" start (parameter ++ [b]))]
  else return []

/-- What is done in any case. -/
def finallyClause (inner : Rules) : Reader (List SyntaxNode) := do
  let start ← place
  if ← takeWord? "finally" then
    let b ← body inner
    return [filling "finalizer" (← node "finally_clause" start [b])]
  else return []

/-- Statements that may fail. -/
def tryStatement (inner : Rules) : Reader SyntaxNode := do
  let start ← place
  takeWord "try"
  let b ← body inner
  let handler ← catchClause inner
  let finalizer ← finallyClause inner
  require (!(handler ++ finalizer).isEmpty)
  node "try_statement" start (b :: handler ++ finalizer)

/-- Statements with the members of a value in scope. -/
def withStatement (inner : Rules) : Reader SyntaxNode := do
  let start ← place
  takeWord "with"
  let value ← condition inner
  let b ← inner .statement
  node "with_statement" start [filling "object" value, filling "body" b]

/-! ## Declarations of types and namespaces -/

/-- The next word is followed by a name on its line. -/
def namesOnLine : Reader Bool := do
  let second ← peekSecond
  return second.isName && !second.afterLine

/-- A type under a name. -/
def typeAlias (inner : Rules) : Reader SyntaxNode := do
  let start ← place
  takeWord "type"
  let n ← name "type_identifier"
  let types ← typeParameters? inner
  takeSign "="
  let value ← inner (.type true)
  endStatement
  node "type_alias_declaration" start (filling "name" n :: types ++ [filling "value" value])

/-- The next words open a namespace. -/
def atNamespace : Reader Bool := do
  let t ← peek
  let second ← peekSecond
  if t.isWord "namespace" then namesOnLine
  else if t.isWord "module" then
    return (← namesOnLine) || (second.kind == .string && !second.afterLine)
  else return false

/-- A namespace. Under a string it may be left without a body. -/
def namespaceDeclaration (inner : Rules) : Reader SyntaxNode := do
  let start ← place
  let word ← take
  let nameStart ← place
  if (← peek).kind == .string then
    let n ← string
    if ← atSign openBrace then
      let b ← body inner
      node "module" start [filling "name" n, b]
    else
      endStatement
      node "module" start [filling "name" n]
  else
    let first ← identifier
    let n ← qualifiedNamespace nameStart first
    let b ← body inner
    if word.text == "module" then node "module" start [filling "name" n, b]
    else
      let whole ← node "internal_module" start [filling "name" n, b]
      node "expression_statement" start [whole]

/-- A declaration that names something, the class aside, if one is next. -/
def declaration? (inner : Rules) : Reader (Option SyntaxNode) := do
  let t ← peek
  if ← atVariables then return some (← variableDeclaration inner)
  else if ← atFunction then return some (← functionDeclaration inner true)
  else if ← atClass then return some (← classDeclaration inner t.start [] true)
  else if t.isWord "interface" && (← namesOnLine) then return some (← interface inner)
  else if t.isWord "type" && (← namesOnLine) then return some (← typeAlias inner)
  else if t.isWord "enum" || t.isWord "const" then return some (← enumeration inner)
  else if ← atNamespace then return some (← namespaceDeclaration inner)
  else return none

/-- The next words declare something that is defined elsewhere. -/
def atAmbient : Reader Bool := do
  let t ← peek
  let second ← peekSecond
  let opens := second.isWordOf
    ["var", "let", "const", "function", "async", "class", "abstract", "interface", "type",
     "enum", "namespace", "module", "global"]
  return t.isWord "declare" && opens && !second.afterLine

/-- A declaration of what is defined elsewhere. -/
def ambient (inner : Rules) : Reader SyntaxNode := do
  let start ← place
  takeWord "declare"
  if (← atWord "global") && (← peekSecond).isSign openBrace then
    let _ ← take
    let b ← inner .block
    node "ambient_declaration" start [b]
  else
    match ← declaration? inner with
    | some d =>
      -- A namespace comes as a statement; here it stands without.
      let bare := if d.kind == "expression_statement" then d.children else [d]
      node "ambient_declaration" start bare
    | none => refuse

/-! ## Statements -/

/-- An expression as a statement. -/
def expressionStatement (inner : Rules) : Reader SyntaxNode := do
  let start ← place
  let value ← inner (.expression true)
  endStatement
  node "expression_statement" start [value]

/-- A statement under a label. -/
def labeled (inner : Rules) : Reader SyntaxNode := do
  let start ← place
  let label ← name "statement_identifier"
  takeSign ":"
  let s ← inner .statement
  node "labeled_statement" start [filling "label" label, filling "body" s]

/-- The rule for statements that begin with a word of their own. -/
def wordStatement? (inner : Rules) (word : String) : Option (Reader SyntaxNode) :=
  match word with
  | "if" => some (ifStatement inner)
  | "for" => some (forStatement inner)
  | "while" => some (whileStatement inner)
  | "do" => some (doStatement inner)
  | "switch" => some (switchStatement inner)
  | "try" => some (tryStatement inner)
  | "with" => some (withStatement inner)
  | "return" => some (returnStatement inner)
  | "throw" => some (throwStatement inner)
  | "break" => some (jump "break_statement")
  | "continue" => some (jump "continue_statement")
  | "debugger" => some do
    let s ← leaf "debugger_statement"
    endStatement
    return s
  | _ => none

/-- A statement that is neither a block nor begins with a word of its own. -/
def otherStatement (inner : Rules) : Reader SyntaxNode := do
  if ← atAmbient then ambient inner
  else
    match ← declaration? inner with
    | some d => return d
    | none =>
      if (← peek).isName && (← peekSecond).isSign ":" then labeled inner
      else expressionStatement inner

end CodeSmell.Grammar
