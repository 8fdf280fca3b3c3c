/-
What a source takes from other sources and what it gives to them.

A specifier is up to four words: the word `type`, a name, and another name for it
behind `as`. Both of these words may be names themselves, so a specifier is told
by the number of its words.
-/
import CodeSmell.Grammar.Statement

set_option autoImplicit false

namespace CodeSmell.Grammar

open Reader

/-! ## Parts of both -/

/-- The words of a specifier follow one of its forms. -/
def isSpecifier (words : List Token) : Bool :=
  match words with
  | [_] => true
  | [first, _] => first.isWord "type"
  | [_, second, _] => second.isWord "as"
  | [first, _, third, _] => first.isWord "type" && third.isWord "as"
  | _ => false

/-- The nodes for the names in the words of a specifier: what it is called here and
there. -/
def specifierNames (words : List Token) : List Token :=
  match words with
  | [only] => [only]
  | [_, named] => [named]
  | [named, _, other] => [named, other]
  | [_, named, _, other] => [named, other]
  | _ => []

/-- A specifier, as a node of a kind. -/
def specifier (kind : String) : Reader SyntaxNode := do
  let start ← place
  let words ← iterate (fun words => do
    let t ← peek
    if t.isNameLike || t.kind == .string then return some ((← take) :: words)
    else return none) ([] : List Token)
  let words := words.reverse
  require (isSpecifier words)
  let s ← read
  node kind start ((specifierNames words).map fun t =>
    s.node (if t.kind == .string then "string" else "identifier") t.start t.stop [])

/-- Specifiers between braces. -/
def specifiers (kind entryKind : String) : Reader SyntaxNode := do
  let start ← place
  takeSign openBrace
  let all ← entries closeBrace do return [← specifier entryKind]
  node kind start all

/-- What is said about a source that is named, if anything is. -/
def attributes? (inner : Rules) : Reader (List SyntaxNode) := do
  let t ← peek
  if t.isWord "with" || (t.isWord "assert" && !t.afterLine) then
    let _ ← take
    let value ← primary inner
    require (value.kind == "object")
    return [← node "import_attribute" t.start [value]]
  else return []

/-- The word `from` and the name of a source. -/
def fromSource (inner : Rules) : Reader (List SyntaxNode) := do
  takeWord "from"
  let path ← string
  let said ← attributes? inner
  return filling "source" path :: said

/-! ## Taking -/

/-- All of a source under one name. -/
def namespaceImport : Reader SyntaxNode := do
  let start ← place
  takeSign "*"
  takeWord "as"
  let n ← identifier
  node "namespace_import" start [n]

/-- Names taken from a source one by one, or all under one name. -/
def importedNames : Reader SyntaxNode := do
  if ← atSign "*" then namespaceImport
  else specifiers "named_imports" "import_specifier"

/-- A name that stands for another source, or for a member of a namespace; its `=` is
next. -/
def importAlias (start : Nat) (n : SyntaxNode) : Reader SyntaxNode := do
  takeSign "="
  let valueStart ← place
  if (← atWord "require") && (← peekSecond).isSign "(" then
    let _ ← take
    takeSign "("
    let path ← string
    takeSign ")"
    let clause ← node "import_require_clause" start [n, filling "source" path]
    endStatement
    node "import_statement" start [clause]
  else
    let first ← identifier
    let target ← qualifiedNamespace valueStart first
    endStatement
    node "import_alias" start [n, target]

/-- The word `type` that is next says what kind of names are taken, and is not a name
itself. -/
def atTypeOnly : Reader Bool := do
  let second ← peekSecond
  if !(← atWord "type") then return false
  else if second.isSignOf [openBrace, "*"] then return true
  -- With `from` twice, the first one is the name that is taken.
  else if second.isWord "from" then return (← thirdToken).isWord "from"
  else return second.isName

/-- What is taken from a source. -/
def importStatement (inner : Rules) : Reader SyntaxNode := do
  let start ← place
  takeWord "import"
  if (← peek).kind == .string then
    let path ← string
    let said ← attributes? inner
    endStatement
    node "import_statement" start (filling "source" path :: said)
  else
    if ← atTypeOnly then
      let _ ← take
    let clauseStart ← place
    if (← peek).isName then
      let n ← identifier
      if ← atSign "=" then importAlias start n
      else
        let more ← if ← takeSign? "," then do pure [← importedNames] else pure []
        let clause ← node "import_clause" clauseStart (n :: more)
        let path ← fromSource inner
        endStatement
        node "import_statement" start (clause :: path)
    else
      let names ← importedNames
      let clause ← node "import_clause" clauseStart [names]
      let path ← fromSource inner
      endStatement
      node "import_statement" start (clause :: path)

/-! ## Giving -/

/-- All names of a source, given on. -/
def exportAll (inner : Rules) (start : Nat) : Reader SyntaxNode := do
  let allStart ← place
  takeSign "*"
  let all ←
    if ← takeWord? "as" then do
      let t ← peek
      let n ← if t.kind == .string then string else anyWord "identifier"
      pure [← node "namespace_export" allStart [n]]
    else pure []
  let path ← fromSource inner
  endStatement
  node "export_statement" start (all ++ path)

/-- Names given one by one. -/
def exportNames (inner : Rules) (start : Nat) : Reader SyntaxNode := do
  let names ← specifiers "export_clause" "export_specifier"
  let path ← if ← atWord "from" then fromSource inner else pure []
  endStatement
  node "export_statement" start (names :: path)

/-- What is given without a name. -/
def exportDefault (inner : Rules) (start : Nat) (front : List SyntaxNode) : Reader SyntaxNode := do
  takeWord "default"
  let classStart ← place
  let decorators ← decorators inner
  if ← atClass then
    let c ← classDeclaration inner classStart decorators false
    node "export_statement" start (front ++ [filling "declaration" c])
  else
    require decorators.isEmpty
    let t ← peek
    if ← atFunction then
      let f ← functionDeclaration inner false
      node "export_statement" start [filling "declaration" f]
    else if t.isWord "interface" && (← namesOnLine) then
      let i ← interface inner
      node "export_statement" start [filling "declaration" i]
    else
      let value ← inner (.assignment true false)
      endStatement
      node "export_statement" start [filling "value" value]

/-- A declaration whose names are given. -/
def exportDeclaration (inner : Rules) (start : Nat) (front : List SyntaxNode) :
    Reader SyntaxNode := do
  let declarationStart ← place
  let decorators ← decorators inner
  if ← atClass then
    let c ← classDeclaration inner declarationStart decorators true
    node "export_statement" start (front ++ [filling "declaration" c])
  else
    require (decorators.isEmpty && front.isEmpty)
    if ← atAmbient then
      let d ← ambient inner
      node "export_statement" start [filling "declaration" d]
    else
      match ← declaration? inner with
      | some d => node "export_statement" start [filling "declaration" d]
      | none => refuse

/-- What is given to other sources, begun at a place by its decorators. -/
def exportStatement (inner : Rules) (start : Nat) (front : List SyntaxNode) :
    Reader SyntaxNode := do
  takeWord "export"
  let t ← peek
  let second ← peekSecond
  if t.isWord "default" then exportDefault inner start front
  else if t.isSign "*" then exportAll inner start
  else if t.isSign openBrace then exportNames inner start
  else if t.isSign "=" then
    let _ ← take
    let value ← inner (.expression true)
    endStatement
    node "export_statement" start [value]
  else if t.isWord "import" then
    let i ← importStatement inner
    node "export_statement" start [i]
  else if t.isWord "as" && second.isWord "namespace" then
    let _ ← take
    let _ ← take
    let n ← identifier
    endStatement
    node "export_statement" start [n]
  else if t.isWord "type" && second.isSign openBrace then
    let _ ← take
    exportNames inner start
  else if t.isWord "type" && second.isSign "*" then
    let _ ← take
    exportAll inner start
  else exportDeclaration inner start front

/-- A class, or what gives it to other sources, behind its decorators. -/
def decorated (inner : Rules) : Reader SyntaxNode := do
  let start ← place
  let decorators ← decorators inner
  if ← atWord "export" then exportStatement inner start decorators
  else
    require (← atClass)
    classDeclaration inner start decorators true

/-- A statement. -/
def statement (inner : Rules) : Reader SyntaxNode := do
  let t ← peek
  if t.isSign openBrace then inner .block
  else if t.isSign ";" then leaf "empty_statement"
  else if t.isSign "@" then decorated inner
  else if t.isWord "export" then exportStatement inner t.start []
  else if t.isWord "import" && !(← peekSecond).isSignOf ["(", "."] then importStatement inner
  else
    match if t.kind == .word then wordStatement? inner t.text else none with
    | some rule => rule
    | none => otherStatement inner

end CodeSmell.Grammar
