/-
The cursor of the grammar.

A reader holds the next token and the place where the last one that it took
ended. It either goes on or refuses the source; a refusal says where. Readers may
be tried: one that refuses then leaves the cursor where it was.

Grammar rules call each other in circles, so they are written against `inner`,
which stands for the rules one level further in; tying the knot is left to the
last module. Repetition is bounded by the length of the source, since every round
takes a token.
-/
import CodeSmell.Grammar.Token

set_option autoImplicit false

namespace CodeSmell.Grammar

/-- How far a source is read. -/
structure Cursor where
  /-- The next token. -/
  token : Token
  /-- Where the last token that was taken ended. -/
  reached : Nat
  /-- The comments passed so far, the last one first. -/
  comments : List (Nat × Nat)
  /-- Places that begin no arrow function, though they look like it. -/
  notArrows : List Nat

/-- Where a source was refused. -/
structure Refusal where
  place : Nat
  deriving Repr

/-- A reader of a part of a source. -/
abbrev Reader := ReaderT Source (EStateM Refusal Cursor)

/-- What the rules call each other for. -/
inductive Goal where
  | statement
  | block
  /-- One or more expressions between commas; `in` may be an operator. -/
  | expression (allowIn : Bool)
  /-- One expression. In the middle of a conditional, a colon after parentheses belongs
  to the conditional first. -/
  | assignment (allowIn inConditional : Bool)
  | unary
  /-- An operand of operators, with its calls and members. -/
  | operand
  /-- An expression that begins with `new`. -/
  | creation
  /-- A type; it may be conditional. -/
  | type (conditional : Bool)
  /-- An operand of the union and intersection of types. -/
  | typeOperand (conditional : Bool)
  | pattern
  | element
  deriving DecidableEq, Repr

/-- The rules, as they call each other. -/
abbrev Rules := Goal → Reader SyntaxNode

/-- The opening brace. -/
def openBrace : String := "\x7b"

/-- The closing brace. -/
def closeBrace : String := "\x7d"

namespace Source

/-- A node over the text between two places. -/
def node (s : Source) (kind : String) (start stop : Nat) (children : List SyntaxNode) :
    SyntaxNode :=
  { kind := kind, named := true, start := s.point start, stop := s.point stop
    text := some (s.excerpt start stop), isError := false, isMissing := false
    hasError := false, field := none, children := children }

end Source

/-- The node, filling a field of its parent. -/
def filling (field : String) (n : SyntaxNode) : SyntaxNode := { n with field := some field }

namespace Reader

/-- Refuses the source at the next token. -/
def refuse {α : Type} : Reader α := do throw ⟨(← get).token.start⟩

/-- The next token. -/
def peek : Reader Token := return (← get).token

/-- The token after the next one. -/
def peekSecond : Reader Token := do return (← read).tokenAt (← peek).stop

/-- The place of the next token. -/
def place : Reader Nat := return (← peek).start

/-- Goes on at a place. -/
def resume (i : Nat) : Reader Unit := do
  let s ← read
  modify fun c => { c with token := s.tokenAt i, reached := i }

/-- Takes the next token. -/
def take : Reader Token := do
  let t ← peek
  modify fun c => { c with comments := t.comments ++ c.comments }
  resume t.stop
  return t

/-- Reads if it can; if not, nothing is read, and only what was found about arrow
functions is kept. -/
def attempt {α : Type} (p : Reader α) : Reader (Option α) := fun source cursor =>
  match p source cursor with
  | .ok a cursor' => .ok (some a) cursor'
  | .error _ cursor' => .ok none { cursor with notArrows := cursor'.notArrows }

/-- What a reader would find, without reading; a reader that refuses finds nothing. -/
def foresee (p : Reader Bool) : Reader Bool := fun source cursor =>
  match p source cursor with
  | .ok found cursor' => .ok found { cursor with notArrows := cursor'.notArrows }
  | .error _ cursor' => .ok false { cursor with notArrows := cursor'.notArrows }

/-- Refuses unless a condition holds. -/
def require (condition : Bool) : Reader Unit := if condition then pure () else refuse

/-! ## Signs and words -/

/-- The next token is a sign. -/
def atSign (text : String) : Reader Bool := return (← peek).isSign text

/-- The next token is a word. -/
def atWord (text : String) : Reader Bool := return (← peek).isWord text

/-- Takes a sign if it is next. -/
def takeSign? (text : String) : Reader Bool := do
  if ← atSign text then
    let _ ← take
    return true
  else return false

/-- Takes a sign. -/
def takeSign (text : String) : Reader Unit := do require (← takeSign? text)

/-- Takes a word if it is next. -/
def takeWord? (text : String) : Reader Bool := do
  if ← atWord text then
    let _ ← take
    return true
  else return false

/-- Takes a word. -/
def takeWord (text : String) : Reader Unit := do require (← takeWord? text)

/-- Takes the end of a statement: a semicolon, or nothing where a line or a block
ends. -/
def endStatement : Reader Unit := do
  if ← takeSign? ";" then return
  let t ← peek
  require (t.isSign closeBrace || t.kind == .finish || t.afterLine)

/-! ## Nodes -/

/-- A node from a place up to the end of the last token. -/
def node (kind : String) (start : Nat) (children : List SyntaxNode) : Reader SyntaxNode :=
  return (← read).node kind start (← get).reached children

/-- The next token as a node. -/
def leaf (kind : String) : Reader SyntaxNode := do
  let t ← take
  node kind t.start []

/-- The next token as a node that stands for no construct. -/
def mark : Reader SyntaxNode := do
  let t ← take
  return { ← node t.text t.start [] with named := false }

/-! ## Repetition -/

/-- Repeats a step until it has no result, at most the given number of times. -/
def iterateUpTo {σ : Type} (step : σ → Reader (Option σ)) : Nat → σ → Reader σ
  -- Not reached: every round takes a token.
  | 0, _ => refuse
  | bound + 1, s => do
    match ← step s with
    | none => return s
    | some s' => iterateUpTo step bound s'

/-- Repeats a step until it has no result. -/
def iterate {σ : Type} (step : σ → Reader (Option σ)) (s : σ) : Reader σ := do
  iterateUpTo step ((← read).size + 2) s

/-- The nodes that a reader yields, as long as a test holds. -/
def whenever (test : Reader Bool) (p : Reader (List SyntaxNode)) : Reader (List SyntaxNode) := do
  let nodes ← iterate (fun nodes => do
    if ← test then return some ((← p).reverse ++ nodes) else return none) []
  return nodes.reverse

/-- Entries between commas up to a closing sign, which is taken too; a comma may stand
after the last one. -/
def entries (close : String) (entry : Reader (List SyntaxNode)) : Reader (List SyntaxNode) := do
  let start : List SyntaxNode × Bool := ([], false)
  let (nodes, _) ← iterate (fun (nodes, closed) => do
    if closed then return none
    else if ← takeSign? close then return some (nodes, true)
    else
      let nodes := (← entry).reverse ++ nodes
      if ← takeSign? "," then return some (nodes, false)
      takeSign close
      return some (nodes, true)) start
  return nodes.reverse

/-- One or more entries between commas. -/
def sequence (entry : Reader SyntaxNode) : Reader (List SyntaxNode) := do
  let first ← entry
  let rest ← whenever (takeSign? ",") do return [← entry]
  return first :: rest

end Reader

end CodeSmell.Grammar
