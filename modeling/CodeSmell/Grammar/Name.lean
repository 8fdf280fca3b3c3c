/-
Names, keys and literals.

A reserved word is no name of a variable; every other word may be one, also a word
that opens a declaration elsewhere. A key of an object or a class may be any word,
a string, a number, a private name or a computed expression.
-/
import CodeSmell.Grammar.Cursor

set_option autoImplicit false

namespace CodeSmell.Grammar

open Reader

/-- Words that are no names. -/
def reservedWords : List String :=
  ["break", "case", "catch", "class", "const", "continue", "debugger", "default", "delete",
   "do", "else", "enum", "export", "extends", "false", "finally", "for", "function", "if",
   "import", "in", "instanceof", "new", "null", "return", "super", "switch", "this", "throw",
   "true", "try", "typeof", "var", "void", "while", "with"]

namespace Token

/-- The token may name a variable. -/
def isName (t : Token) : Bool :=
  t.kind == .escapedWord || (t.kind == .word && !reservedWords.contains t.text)

/-- The token may begin a key. -/
def beginsKey (t : Token) : Bool :=
  t.isNameLike || t.kind == .string || t.kind == .number || t.kind == .privateName
    || t.isSign "["

end Token

namespace Source

/-- What the text between two places of a string is made of: escapes, and what stands
between them. The number bounds the steps. -/
def fragments (s : Source) : Nat → Nat → Nat → List SyntaxNode
  | 0, _, _ => []
  | steps + 1, i, stop =>
    if stop ≤ i then []
    else if s.charIs i (· == '\\') then
      let j := (s.escapeEnd? i).getD stop
      s.node "escape_sequence" i j [] :: s.fragments steps j stop
    else
      let j := min stop (s.skipWhile (· != '\\') i)
      s.node "string_fragment" i j [] :: s.fragments steps j stop

end Source

namespace Reader

/-- A name, as a node of a kind. -/
def name (kind : String) : Reader SyntaxNode := do
  require (← peek).isName
  leaf kind

/-- A name of a variable. -/
def identifier : Reader SyntaxNode := name "identifier"

/-- Any word, as a node of a kind. -/
def anyWord (kind : String) : Reader SyntaxNode := do
  require (← peek).isNameLike
  leaf kind

/-- The next token as a string, with what it is made of. -/
def quotedText : Reader SyntaxNode := do
  let t ← take
  node "string" t.start ((← read).fragments (t.stop - t.start) (t.start + 1) (t.stop - 1))

/-- A string. -/
def string : Reader SyntaxNode := do
  require ((← peek).kind == .string)
  quotedText

end Reader

/-- A computed key. -/
def computedKey (inner : Rules) : Reader SyntaxNode := do
  let start ← place
  takeSign "["
  let value ← inner (.assignment true false)
  takeSign "]"
  node "computed_property_name" start [value]

/-- A key of an object, a class or a type. -/
def key (inner : Rules) : Reader SyntaxNode := do
  let t ← peek
  match t.kind with
  | .word | .escapedWord => leaf "property_identifier"
  | .string => quotedText
  | .number => leaf "number"
  | .privateName => leaf "private_property_identifier"
  | _ => computedKey inner

/-- The place where the text of a template ends: at a back quote, or at a dollar and a
brace. The number bounds the steps. -/
def Source.templateTextEnd? (s : Source) : Nat → Nat → Option Nat
  | 0, _ => none
  | steps + 1, i =>
    let i := s.skipWhile (fun c => c != '`' && c != '\\' && c != '$') i
    match s.char? i with
    | none => none
    | some c =>
      if c == '\\' then (s.escapeEnd? i).bind (s.templateTextEnd? steps)
      else if c == '$' && !s.charIs (i + 1) (· == '{') then s.templateTextEnd? steps (i + 1)
      else some i

/-- A template from its back quote on; `piece` reads what stands inside braces, and
`pieceKind` and `kind` name the nodes. -/
def templateOf (kind pieceKind : String) (piece : Reader SyntaxNode) : Reader SyntaxNode := do
  let start ← place
  let opening ← take
  let begun : Nat × List SyntaxNode × Bool := (opening.stop, [], false)
  let (_, pieces, _) ← iterate (fun (i, pieces, closed) => do
    if closed then return none
    else
      let s ← read
      match s.templateTextEnd? (s.size + 1) i with
      | none => refuse
      | some j =>
        let pieces := (s.fragments (s.size + 1) i j).reverse ++ pieces
        if s.charIs j (· == '`') then
          resume (j + 1)
          return some (j + 1, pieces, true)
        else
          resume (j + 2)
          let value ← piece
          require ((← peek).isSign closeBrace)
          let stop := (← peek).stop
          return some (stop, s.node pieceKind j stop [value] :: pieces, false)) begun
  node kind start pieces.reverse

/-- A template whose pieces are expressions. -/
def template (inner : Rules) : Reader SyntaxNode :=
  templateOf "template_string" "template_substitution" (inner (.expression true))

end CodeSmell.Grammar
