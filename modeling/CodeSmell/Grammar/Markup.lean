/-
Elements of markup.

Between its tags an element holds text, expressions in braces and further
elements. Text is read as it stands, character by character, so the reader goes
on after a tag at the very next character. The two tags of an element carry one
name. Names and values of attributes have spellings of their own: a name may hold
hyphens, and a string has no escapes and may span lines.
-/
import CodeSmell.Grammar.Class

set_option autoImplicit false

namespace CodeSmell.Grammar

open Reader

/-- A name in a tag. -/
def tagWord (kind : String) : Reader SyntaxNode := do
  let t ← peek
  require t.isNameLike
  let s ← read
  let _ ← take
  resume (s.skipWhile (fun c => isNameChar c || c == '-') t.start)
  node kind t.start []

/-- The name of an element. -/
def tagName : Reader SyntaxNode := do
  let start ← place
  let first ← tagWord "identifier"
  if ← takeSign? ":" then
    let last ← tagWord "identifier"
    node "jsx_namespace_name" start [first, last]
  else
    iterate (fun left => do
      if ← takeSign? "." then
        let last ← tagWord "property_identifier"
        return some (← node "member_expression" start
          [filling "object" left, filling "property" last])
      else return none) first

/-- A string as the value of an attribute. -/
def tagString : Reader SyntaxNode := do
  let s ← read
  let i ← place
  match s.char? i with
  | some quote =>
    require (quote == '"' || quote == '\'')
    let stop := s.skipWhile (· != quote) (i + 1)
    require (decide (stop < s.size))
    resume (stop + 1)
    node "string" i (if i + 1 < stop then [s.node "string_fragment" (i + 1) stop []] else [])
  | none => refuse

/-- An expression in braces, which may be left out or spread. -/
def bracedExpression (inner : Rules) : Reader SyntaxNode := do
  let start ← place
  takeSign openBrace
  let value ←
    if ← atSign closeBrace then pure []
    else if ← atSign "..." then do pure [← argument inner]
    else do pure [← inner (.expression true)]
  takeSign closeBrace
  node "jsx_expression" start value

/-- The value of an attribute. -/
def attributeValue (inner : Rules) : Reader SyntaxNode := do
  if ← atSign openBrace then bracedExpression inner
  else if ← atSign "<" then inner .element
  else tagString

/-- An attribute. -/
def tagAttribute (inner : Rules) : Reader SyntaxNode := do
  let start ← place
  if ← atSign openBrace then bracedExpression inner
  else
    let first ← tagWord "property_identifier"
    let n ←
      if ← takeSign? ":" then do
        let last ← tagWord "property_identifier"
        node "jsx_namespace_name" start [first, last]
      else pure first
    let value ←
      if ← takeSign? "=" then do pure [← attributeValue inner] else pure []
    node "jsx_attribute" start (n :: value)

/-- The text of an element up to the next tag or expression, and where it ends. A brace
or a bracket that closes nothing is not text. -/
def plainText (i : Nat) : Reader (Nat × List SyntaxNode) := do
  let s ← read
  let stop := s.skipWhile (fun c => c != '<' && c != '>' && c != '{' && c != '}') i
  if s.charIs stop (fun c => c == '<' || c == '{') then
    return (stop, if i < stop then [s.node "jsx_text" i stop []] else [])
  else refuse

/-- What stands between the tags of an element whose opening tag was just taken, up to
the closing tag, which comes too. -/
def content (inner : Rules) (opening : SyntaxNode) (tag : Option String) :
    Reader (List SyntaxNode) := do
  let start : List SyntaxNode × Bool := ([opening], false)
  let (nodes, _) ← iterate (fun (nodes, closed) => do
    if closed then return none
    else
      let (i, text) ← plainText (← get).reached
      let nodes := text ++ nodes
      resume i
      if ← atSign openBrace then return some ((← bracedExpression inner) :: nodes, false)
      -- The closing tag has the name of the opening one.
      else if (← peekSecond).isSign "/" then
        takeSign "<"
        takeSign "/"
        let n ← if ← atSign ">" then pure [] else do pure [filling "name" (← tagName)]
        require (n.head?.map (·.content) == tag)
        takeSign ">"
        return some (filling "close_tag" (← node "jsx_closing_element" i n) :: nodes, true)
      else return some ((← inner .element) :: nodes, false)) start
  return nodes.reverse

/-- An element. -/
def element (inner : Rules) : Reader SyntaxNode := do
  let start ← place
  takeSign "<"
  if ← takeSign? ">" then
    let opening := filling "open_tag" (← node "jsx_opening_element" start [])
    let parts ← content inner opening none
    node "jsx_element" start parts
  else
    let n ← tagName
    let types ← typeArguments? inner
    let attributes ← whenever (return !(← peek).isSignOf ["/", ">"]) do
      return [filling "attribute" (← tagAttribute inner)]
    let parts := filling "name" n :: types ++ attributes
    if ← takeSign? "/" then
      takeSign ">"
      node "jsx_self_closing_element" start parts
    else
      takeSign ">"
      let opening := filling "open_tag" (← node "jsx_opening_element" start parts)
      let parts ← content inner opening (some n.content)
      node "jsx_element" start parts

end CodeSmell.Grammar
