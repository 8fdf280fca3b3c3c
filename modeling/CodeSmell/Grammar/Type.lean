/-
Types.

From the outside in: a conditional type, unions, intersections, operators such as
`keyof`, and postfix brackets around a primary type. A type that begins with a
parenthesis is a function type if what follows can only be parameters.

Members of an object type and of an interface have one reader. They are never
methods in the sense of the rules, which only count those in the body of a class.
-/
import CodeSmell.Grammar.Parameter

set_option autoImplicit false

namespace CodeSmell.Grammar

open Reader

/-! ## Function types -/

/-- What follows an opening parenthesis and a first parameter shows that it was one. -/
def afterFirstParameter : Reader Bool := do
  let t ← peek
  if t.isSignOf [":", ",", "?", "="] then return true
  else if t.isSign ")" then return (← peekSecond).isSign "=>"
  else return false

/-- The parenthesis at the next place begins parameters. -/
def atParameters (inner : Rules) : Reader Bool := foresee do
  takeSign "("
  let t ← peek
  -- None of these begins a type.
  if t.isSignOf [")", "..."] || t.isSign "@" then return true
  let _ ← whenever atParameterModifier modifier
  let _ ← if ← atWord "this" then leaf "this" else inner .pattern
  afterFirstParameter

/-- The next words begin a function type. -/
def atFunctionType (inner : Rules) : Reader Bool := do
  let t ← peek
  if t.isSign "<" || t.isWord "new" then return true
  if t.isWord "abstract" then return (← peekSecond).isWord "new"
  if t.isSign "(" then atParameters inner
  else return false

/-- A function type or a constructor type. -/
def functionType (inner : Rules) : Reader SyntaxNode := do
  let start ← place
  let isAbstract ← takeWord? "abstract"
  let isConstructor ← takeWord? "new"
  require (isConstructor || !isAbstract)
  let types ← typeParameters? inner
  let ps ← parameters inner
  takeSign "=>"
  let result ← returned inner
  node (if isConstructor then "constructor_type" else "function_type") start
    (types ++ [filling "parameters" ps, filling "return_type" result])

/-! ## Members of object types -/

/-- The end of a member: a semicolon, a comma, the end of a line or of the body. -/
def endMember : Reader Unit := do
  if ← takeSign? ";" then return
  if ← takeSign? "," then return
  let t ← peek
  require (t.isSign closeBrace || t.afterLine)

/-- The token after a bracket and a word. -/
def thirdToken : Reader Token := do return (← read).tokenAt (← peekSecond).stop

/-- The next bracket opens an index signature. -/
def atIndex : Reader Bool := do
  return (← atSign "[") && (← peekSecond).isName && (← thirdToken).isSign ":"

/-- The next bracket opens the key of a mapped type. -/
def atMappedKey : Reader Bool := do
  return (← atSign "[") && (← peekSecond).isName && (← thirdToken).isWord "in"

/-- An index signature, from its bracket on. -/
def indexSignature (inner : Rules) (start : Nat) : Reader SyntaxNode := do
  takeSign "["
  let n ← identifier
  takeSign ":"
  let index ← inner (.type true)
  takeSign "]"
  let type ← typeMark? inner "type"
  node "index_signature" start ([filling "name" n, filling "index_type" index] ++ type)

/-- A sign in front of a modifier of a mapped type. -/
def skipPolarity : Reader Unit := do
  if (← peek).isSignOf ["+", "-"] then
    let _ ← take

/-- A member that maps keys, from its bracket on. -/
def mappedMember (inner : Rules) (start : Nat) : Reader SyntaxNode := do
  let clauseStart ← place
  takeSign "["
  let n ← name "type_identifier"
  takeWord "in"
  let keys ← inner (.type true)
  let renamed ←
    if ← takeWord? "as" then do pure [filling "alias" (← inner (.type true))] else pure []
  takeSign "]"
  let clause ← node "mapped_type_clause" clauseStart
    ([filling "name" n, filling "type" keys] ++ renamed)
  skipPolarity
  let _ ← takeSign? "?"
  let type ← typeMark? inner "type"
  node "index_signature" start (clause :: type)

/-- The next word is a modifier of a member of a type: a key follows it. -/
def atTypeMemberModifier : Reader Bool := do
  let t ← peek
  let second ← peekSecond
  return t.isWordOf ("readonly" :: "static" :: accessWords) && second.beginsKey
    && !second.afterLine

/-- The next word is `get` or `set` in front of a key. -/
def atAccessor : Reader Bool := do
  return (← peek).isWordOf ["get", "set"] && (← peekSecond).beginsKey

/-- The mark of an accessor, if the next word is one. -/
def accessorMark? : Reader (List SyntaxNode) := do
  if ← atAccessor then return [← mark] else return []

/-- A member of an object type or an interface. -/
def typeMember (inner : Rules) : Reader SyntaxNode := do
  let start ← place
  let t ← peek
  if t.isSignOf ["(", "<"] then
    node "call_signature" start (← signature inner)
  else if t.isWord "new" && (← peekSecond).isSignOf ["(", "<"] then
    let _ ← take
    let parts ← signature inner
    node "construct_signature" start (parts.map fun n =>
      if n.field == some "return_type" then filling "type" n else n)
  else
    if t.isSignOf ["+", "-"] && (← peekSecond).isWord "readonly" then skipPolarity
    let _ ←
      if ← atTypeMemberModifier then whenever atTypeMemberModifier modifier
      else pure []
    if ← atIndex then indexSignature inner start
    else if ← atMappedKey then mappedMember inner start
    else
      let accessor ← accessorMark?
      let k ← key inner
      let _ ← takeSign? "?"
      if (← peek).isSignOf ["(", "<"] then
        let parts ← signature inner
        node "method_signature" start (accessor ++ filling "name" k :: parts)
      else
        require accessor.isEmpty
        let type ← typeMark? inner "type"
        node "property_signature" start (filling "name" k :: type)

/-- The members between braces. -/
def typeMembers (inner : Rules) (kind : String) : Reader SyntaxNode := do
  let start ← place
  takeSign openBrace
  let members ← whenever (return !(← atSign closeBrace)) do
    let member ← typeMember inner
    endMember
    return [member]
  takeSign closeBrace
  node kind start members

/-! ## Primary types -/

/-- Types with a word of their own. -/
def predefinedWords : List String :=
  ["any", "number", "boolean", "string", "symbol", "void", "unknown", "never", "object"]

/-- An element of a tuple type. -/
def tupleEntry (inner : Rules) : Reader SyntaxNode := do
  let start ← place
  let isRest ← takeSign? "..."
  let t ← peek
  let second ← peekSecond
  let isNamed ← do
    if !t.isNameLike then pure false
    else if second.isSign ":" then pure true
    else if second.isSign "?" then pure ((← thirdToken).isSign ":")
    else pure false
  if isNamed then
    let n ← anyWord "identifier"
    let target ← if isRest then node "rest_pattern" start [n] else pure n
    let isOptional ← takeSign? "?"
    let type ← typeMark inner
    node (if isOptional then "optional_parameter" else "required_parameter") start
      [filling "name" target, filling "type" type]
  else
    let type ← inner (.type true)
    if isRest then node "rest_type" start [type]
    else if ← takeSign? "?" then node "optional_type" start [type]
    else return type

/-- Further names behind points, onto a name that began at a place: nodes of a kind,
whose two parts fill two fields. -/
def qualifiedBy (kind lastKind field lastField : String) (start : Nat) (first : SyntaxNode) :
    Reader SyntaxNode :=
  iterate (fun left => do
    if ← takeSign? "." then
      let last ←
        if (← peek).kind == .privateName then leaf "private_property_identifier"
        else anyWord lastKind
      return some (← node kind start [filling field left, filling lastField last])
    else return none) first

/-- A name of a type behind namespaces. -/
def qualifiedType (start : Nat) (first : SyntaxNode) : Reader SyntaxNode :=
  qualifiedBy "nested_type_identifier" "type_identifier" "module" "name" start first

/-- A member of members. -/
def qualifiedMember (start : Nat) (first : SyntaxNode) : Reader SyntaxNode :=
  qualifiedBy "member_expression" "property_identifier" "object" "property" start first

/-- A namespace within namespaces. -/
def qualifiedNamespace (start : Nat) (first : SyntaxNode) : Reader SyntaxNode := do
  let whole ← qualifiedMember start first
  return if whole.kind == "member_expression" then { whole with kind := "nested_identifier" }
    else whole

/-- A type with its arguments, if they follow on the line. -/
def withTypeArguments (inner : Rules) (start : Nat) (type : SyntaxNode) : Reader SyntaxNode := do
  let t ← peek
  if t.isSign "<" && !t.afterLine then
    let types ← typeArguments inner
    node "generic_type" start [filling "name" type, filling "type_arguments" types]
  else return type

/-- A named type, with its arguments. -/
def namedType (inner : Rules) : Reader SyntaxNode := do
  let start ← place
  let first ← name "type_identifier"
  let type ← qualifiedType start first
  withTypeArguments inner start type

/-- A type taken from another source. -/
def importedType (inner : Rules) : Reader SyntaxNode := do
  let start ← place
  takeWord "import"
  takeSign "("
  let path ← inner (.type true)
  if ← takeSign? "," then
    if !(← atSign ")") then
      let _ ← inner (.assignment true false)
      let _ ← takeSign? ","
  takeSign ")"
  let call ← node "call_expression" start [path]
  let type ← qualifiedMember start call
  withTypeArguments inner start type

/-- The type of a variable. -/
def typeQuery (inner : Rules) : Reader SyntaxNode := do
  let start ← place
  takeWord "typeof"
  let targetStart ← place
  let target ←
    if ← atWord "import" then importedType inner
    else do
      let first ← if ← atWord "this" then leaf "this" else identifier
      let whole ← qualifiedMember targetStart first
      withTypeArguments inner targetStart whole
  node "type_query" start [target]

/-- A type that is one value. -/
def literalType (kind : String) : Reader SyntaxNode := do
  let start ← place
  let value ← if kind == "string" then quotedText else leaf kind
  node "literal_type" start [value]

/-- A type that is one negative number. -/
def negativeType : Reader SyntaxNode := do
  let start ← place
  takeSign "-"
  require ((← peek).kind == .number)
  let value ← leaf "number"
  let whole ← node "unary_expression" start [filling "argument" value]
  node "literal_type" start [whole]

/-- A type that begins with a word. -/
def wordType (inner : Rules) : Reader SyntaxNode := do
  let t ← peek
  if t.isWordOf predefinedWords && !(← peekSecond).isSign "." then leaf "predefined_type"
  else if t.isWordOf ["true", "false", "null", "undefined"] then literalType t.text
  else if t.isWord "this" then leaf "this_type"
  else if t.isWord "typeof" then typeQuery inner
  else if t.isWord "import" then importedType inner
  else namedType inner

/-- A primary type. -/
def primaryType (inner : Rules) : Reader SyntaxNode := do
  let start ← place
  let t ← peek
  match t.kind with
  | .string => literalType "string"
  | .number => literalType "number"
  | .template =>
    templateOf "template_literal_type" "template_type" (inner (.type true))
  | .word | .escapedWord => wordType inner
  | _ =>
    if t.isSign "-" then negativeType
    else if t.isSign openBrace then typeMembers inner "object_type"
    else if ← takeSign? "[" then
      let parts ← entries "]" do return [← tupleEntry inner]
      node "tuple_type" start parts
    else
      takeSign "("
      let type ← inner (.type true)
      takeSign ")"
      node "parenthesized_type" start [type]

/-! ## Types with operators -/

/-- A primary type with brackets behind it. -/
def postfixType (inner : Rules) : Reader SyntaxNode := do
  let start ← place
  let first ← primaryType inner
  iterate (fun type => do
    let t ← peek
    if t.isSign "[" && !t.afterLine then
      let _ ← take
      if ← takeSign? "]" then return some (← node "array_type" start [type])
      let index ← inner (.type true)
      takeSign "]"
      return some (← node "lookup_type" start [type, index])
    else return none) first

/-- What bounds an inferred type, if the words do not belong to a conditional type. -/
def inferBound? (inner : Rules) (conditional : Bool) : Reader (List SyntaxNode) := do
  let bound ← attempt do
    takeWord "extends"
    let t ← inner (.type false)
    -- Before a question mark the words begin a conditional type.
    require (!conditional || !(← atSign "?"))
    return t
  return bound.toList

/-- A type with the operators in front of it. -/
def typeOperand (inner : Rules) (conditional : Bool) : Reader SyntaxNode := do
  let start ← place
  let t ← peek
  if t.isWord "keyof" then
    let _ ← take
    node "index_type_query" start [← inner (.typeOperand conditional)]
  else if t.isWord "readonly" then
    let _ ← take
    node "readonly_type" start [← inner (.typeOperand conditional)]
  else if t.isWord "unique" && (← peekSecond).isWord "symbol" then
    let _ ← take
    let _ ← take
    node "predefined_type" start []
  else if t.isWord "infer" && (← peekSecond).isName then
    let _ ← take
    let n ← name "type_identifier"
    let bound ← inferBound? inner conditional
    node "infer_type" start (n :: bound)
  else postfixType inner

/-- Types joined by a sign, which may also stand in front of the first. -/
def joinedTypes (sign kind : String) (operand : Reader SyntaxNode) : Reader SyntaxNode := do
  let start ← place
  let leads ← takeSign? sign
  let first ← operand
  -- A sign in front of a single type makes a node of its own.
  let first ← if leads && !(← atSign sign) then node kind start [first] else pure first
  iterate (fun left => do
    if ← takeSign? sign then
      let right ← operand
      return some (← node kind start [left, right])
    else return none) first

/-- A type. -/
def type (inner : Rules) (conditional : Bool) : Reader SyntaxNode := do
  let start ← place
  if ← atFunctionType inner then functionType inner
  else
    let left ← joinedTypes "|" "union_type"
      (joinedTypes "&" "intersection_type" (inner (.typeOperand conditional)))
    let t ← peek
    if conditional && t.isWord "extends" && !t.afterLine then
      let _ ← take
      let right ← inner (.type false)
      takeSign "?"
      let consequence ← inner (.type true)
      takeSign ":"
      let alternative ← inner (.type true)
      node "conditional_type" start
        [filling "left" left, filling "right" right, filling "consequence" consequence,
         filling "alternative" alternative]
    else return left

end CodeSmell.Grammar
