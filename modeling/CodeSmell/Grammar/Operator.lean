/-
Operators between two operands.

Operands and operators are read from left to right. What waits for its right
operand is kept in a list, the latest first, and an operator that comes next first
closes everything in the list that binds at least as tightly as it does. One
operator, the power, binds to the right and leaves its equals open.
-/
import CodeSmell.Grammar.Type

set_option autoImplicit false

namespace CodeSmell.Grammar

open Reader

/-- Operators that begin with a lower angle bracket, longer ones first. -/
def lowerSigns : List String := ["<<=", "<<", "<=", "<"]

/-- Operators that begin with an upper angle bracket, longer ones first. -/
def upperSigns : List String := [">>>=", ">>>", ">>=", ">>", ">=", ">"]

/-- The operator at a token: a sign, with the angle brackets that follow it joined, or
a word. -/
def Source.operatorAt (s : Source) (t : Token) : String :=
  if t.isSign "<" then (s.longest? t.start lowerSigns).getD t.text
  else if t.isSign ">" then (s.longest? t.start upperSigns).getD t.text
  else if t.kind == .sign || t.kind == .word then t.text
  else ""

/-- How tightly an operator binds; none if it stands between no operands. -/
def strength? (allowIn : Bool) (operator : String) : Option Nat :=
  if operator == "??" then some 1
  else if operator == "||" then some 2
  else if operator == "&&" then some 3
  else if operator == "|" then some 4
  else if operator == "^" then some 5
  else if operator == "&" then some 6
  else if ["==", "!=", "===", "!=="].contains operator then some 7
  else if ["<", ">", "<=", ">=", "instanceof"].contains operator then some 8
  else if operator == "in" then if allowIn then some 8 else none
  else if ["<<", ">>", ">>>"].contains operator then some 9
  else if ["+", "-"].contains operator then some 10
  else if ["*", "/", "%"].contains operator then some 11
  else if operator == "**" then some 12
  else none

/-- How tightly an assertion of a type binds. -/
def assertionStrength : Nat := 8

/-- Operators that assign, after the plain one. -/
def augmentedSigns : List String :=
  ["+=", "-=", "*=", "/=", "%=", "**=", "<<=", ">>=", ">>>=", "&=", "^=", "|=", "&&=", "||=",
   "??="]

/-- A left operand with its operator, waiting for the right one. -/
structure Pending where
  start : Nat
  left : SyntaxNode
  strength : Nat

/-- Operands read so far: those that wait, and the one that was read last. -/
structure Operands where
  pending : List Pending
  start : Nat
  last : SyntaxNode

/-- Whether what waits is closed by an operator of a strength: equals are, except for
the power. -/
def Pending.closedBy (p : Pending) (strength : Nat) : Bool :=
  decide (strength < p.strength) || (p.strength == strength && strength != 12)

/-- Closes what waits, as long as a test holds. -/
def closeOperands (closes : Pending → Bool) : List Pending → Nat → SyntaxNode → Reader Operands
  | [], start, last => return ⟨[], start, last⟩
  | p :: rest, start, last => do
    if closes p then
      let whole ← node "binary_expression" p.start
        [filling "left" p.left, filling "right" last]
      closeOperands closes rest p.start whole
    else return ⟨p :: rest, start, last⟩

/-- Takes an operator that may be longer than the next token. -/
def takeOperator (operator : String) : Reader Unit := do
  let t ← take
  if t.stop < t.start + operator.length then resume (t.start + operator.length)

/-- A type asserted of the operand before it. -/
def assertedType (inner : Rules) : Reader SyntaxNode := do
  if ← atWord "const" then leaf "const" else inner (.type true)

/-- One more operator with what follows it, if one is next. -/
def furtherOperand (inner : Rules) (allowIn : Bool) (ops : Operands) :
    Reader (Option Operands) := do
  let t ← peek
  if t.isWordOf ["as", "satisfies"] && !t.afterLine then
    let ops ← closeOperands (·.closedBy assertionStrength) ops.pending ops.start ops.last
    let word ← take
    let type ← assertedType inner
    let whole ← node (if word.text == "as" then "as_expression" else "satisfies_expression")
      ops.start [ops.last, type]
    return some ⟨ops.pending, ops.start, whole⟩
  else
    let operator := (← read).operatorAt t
    match strength? allowIn operator with
    | none => return none
    | some strength =>
      let ops ← closeOperands (·.closedBy strength) ops.pending ops.start ops.last
      takeOperator operator
      let start ← place
      let operand ← inner .unary
      return some ⟨⟨ops.start, ops.last, strength⟩ :: ops.pending, start, operand⟩

/-- Operands with operators between them. -/
def operation (inner : Rules) (allowIn : Bool) : Reader SyntaxNode := do
  let start ← place
  let first ← inner .unary
  let ops ← iterate (furtherOperand inner allowIn) ⟨[], start, first⟩
  let ops ← closeOperands (fun _ => true) ops.pending ops.start ops.last
  return ops.last

end CodeSmell.Grammar
