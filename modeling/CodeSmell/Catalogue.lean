/-
The rules that are built in, in the order they are asked.

Each rule asks `Classify` what the node is and compares a measurement with its
limit. The magic number rule computes the value of a literal before it looks at
where the literal stands, so a literal that has no value is a failure wherever it
is. Nesting counts the functions strictly around a function, so the sixth of a
chain is the first with depth five.
-/
import CodeSmell.Classify
import CodeSmell.Rule
import CodeSmell.Thresholds

set_option autoImplicit false

namespace CodeSmell

/-- The fault of a literal that has no value. -/
def NumeralError.toFault (e : NumeralError) : RuleFault :=
  match e with
  | .tooLarge => .overflow e.message
  | _ => .badValue e.message

/-- The number of functions among nodes that each stand in the next. -/
def functionDepth : List SyntaxNode → Nat
  | [] => 0
  | n :: around => functionDepth around + if n.isFunctionLike around.head? then 1 else 0

namespace Catalogue

def anyTypeInfo : RuleInfo :=
  { id := "any-type"
    name := "Any Type Abuse"
    severity := .high
    description := "Usage of \"any\" disables type checking."
    message := "Avoid using \"any\". It bypasses the type system." }

def longParameterListInfo : RuleInfo :=
  { id := "long-param-list"
    name := "Long Parameter List"
    severity := .medium
    description := "Function has \x7bcount\x7d parameters."
    message := "Consider refactoring to use a parameter object." }

def magicNumberInfo : RuleInfo :=
  { id := "magic-number"
    name := "Magic Number"
    severity := .low
    description := "Unnamed numeric literal \"\x7bvalue\x7d\" found."
    message := "Extract this number into a named constant." }

def godClassInfo : RuleInfo :=
  { id := "god-class"
    name := "God Class"
    severity := .high
    description := "Class has \x7bmethods\x7d methods and \x7blines\x7d lines."
    message := "This class does too much. Verify Single Responsibility Principle." }

def callbackHellInfo : RuleInfo :=
  { id := "callback-hell"
    name := "Callback Hell"
    severity := .high
    description := "Function nesting depth is \x7bdepth\x7d."
    message := "Refactor using Promises or Async/Await to flatten the code." }

def nonNullAssertionInfo : RuleInfo :=
  { id := "non-null-assertion"
    name := "Non-Null Assertion"
    severity := .medium
    description := "Usage of \"!\" operator."
    message := "Avoid non-null assertions. Use optional chaining or guard clauses." }

/-- The metadata of the rules that are built in. -/
def infos : List RuleInfo :=
  [anyTypeInfo, longParameterListInfo, magicNumberInfo, godClassInfo, callbackHellInfo,
   nonNullAssertionInfo]

/-- A report of a rule at the row where the visited node starts. -/
def report (rule : RuleInfo) (v : Visit) (facts : Facts) : Option Detection :=
  some ⟨rule, v.node.start.row, facts⟩

/-- The explicit type `any`. -/
def anyType : Rule where
  toRuleInfo := anyTypeInfo
  evaluate v := .ok (if v.node.isAnyKeyword then report anyTypeInfo v [] else none)

/-- A function with more parameters than the limit. -/
def longParameterList (t : Thresholds) : Rule where
  toRuleInfo := longParameterListInfo
  evaluate v :=
    let count := v.node.parameterCount
    .ok (if v.node.isFunctionLike v.parent? ∧ t.maxParameters < count
      then report longParameterListInfo v [("count", .int count)] else none)

/-- A number literal that no declaration names. -/
def magicNumber (t : Thresholds) : Rule where
  toRuleInfo := magicNumberInfo
  evaluate v :=
    if v.node.isNumericLiteral then
      -- The value is computed first: a literal without one fails wherever it stands.
      match v.node.numericValue with
      | .error e => .error e.toFault
      | .ok value =>
        .ok (if t.exempts value || v.parent?.any (·.isDeclarationContext) then none
          else report magicNumberInfo v [("value", .str (Numeral.write Numeral.script value))])
    else .ok none

/-- A class with more methods or more lines than the limits. -/
def godClass (t : Thresholds) : Rule where
  toRuleInfo := godClassInfo
  evaluate v :=
    let methods := v.node.methodCount
    let lines := v.node.rowSpan
    .ok (if v.node.isClassLike ∧ (t.maxMethods < methods ∨ t.maxClassLines < lines)
      then report godClassInfo v [("methods", .int methods), ("lines", .int lines)] else none)

/-- A function inside more functions than the limit. -/
def callbackHell (t : Thresholds) : Rule where
  toRuleInfo := callbackHellInfo
  evaluate v :=
    if v.node.isFunctionLike v.parent? then
      let depth := functionDepth v.ancestors
      .ok (if t.maxNestingDepth < depth
        then report callbackHellInfo v [("depth", .int depth)] else none)
    else .ok none

/-- The postfix `!`. -/
def nonNullAssertion : Rule where
  toRuleInfo := nonNullAssertionInfo
  evaluate v := .ok (if v.node.isNonNullAssertion then report nonNullAssertionInfo v [] else none)

/-- The rules with the given limits. -/
def rules (t : Thresholds) : List Rule :=
  [anyType, longParameterList t, magicNumber t, godClass t, callbackHell t, nonNullAssertion]

/-- The rules with the limits that are built in. -/
def standard : List Rule := rules .standard

end Catalogue

/-! ## Identifiers of rules -/

namespace RuleId

/-- One or more small letters, and possibly a hyphen with the same again. `started`
says that the word at hand has a letter. -/
def isHyphenated (started : Bool) : List Char → Bool
  | [] => started
  | c :: rest =>
    if 'a' ≤ c ∧ c ≤ 'z' then isHyphenated true rest
    else c == '-' && started && isHyphenated false rest

/-- The text is an identifier of a rule: small words joined by hyphens. One line feed
at the end is not minded. -/
def isValid (id : String) : Bool :=
  match id.toList.reverse with
  | '\n' :: before => isHyphenated false before.reverse
  | _ => isHyphenated false id.toList

/-- What is wrong with a list of identifiers. -/
inductive RegistryError where
  | repeated
  | invalid (ids : List String)
  deriving DecidableEq, Repr

/-- The wording of the error. -/
def RegistryError.message : RegistryError → String
  | repeated => "RULE_IDS must contain unique IDs"
  | invalid ids => "RULE_IDS contains invalid rule IDs: [" ++ Text.quotedList ids ++ "]"

/-- Checks that identifiers are distinct and well formed. -/
def check (ids : List String) : Except RegistryError Unit :=
  if ids.Nodup then
    match ids.filter (!isValid ·) with
    | [] => .ok ()
    | bad => .error (.invalid bad)
  else .error .repeated

example : (check (Catalogue.infos.map (·.id))).isOk = true := by decide +kernel

end RuleId

end CodeSmell
