/-
What a node is, in the language's terms.

The grammar has several shapes for one notion: a function may be a declaration, a
method, an arrow or an expression. Rules ask the predicates of this file and not
for kinds of nodes, so two rules that care about one notion agree on it. Only
named nodes are classified, since tokens such as `function` and `class` share
their kinds with constructs.

A method is told from other members by what stands around it, so the predicates
that need it take the parent of the node.
-/
import CodeSmell.Number.Reading
import CodeSmell.Syntax.Node

set_option autoImplicit false

namespace CodeSmell.SyntaxNode

/-- Kinds of functions that are not members. -/
def functionKinds : List String :=
  ["function_declaration", "generator_function_declaration", "function_signature",
   "function_expression", "function", "generator_function", "arrow_function"]

/-- Kinds of classes. -/
def classKinds : List String :=
  ["class_declaration", "abstract_class_declaration", "class"]

/-- Kinds of parents that turn a literal into a named constant: a variable, a member
of an enumeration, a property of an object, a field of a class. -/
def declarationKinds : List String :=
  ["variable_declarator", "enum_assignment", "pair", "public_field_definition",
   "field_definition"]

/-- Kinds of members that may be methods: with a body, abstract, or a signature. -/
def memberKinds : List String :=
  ["method_definition", "abstract_method_signature", "method_signature"]

/-- The node is a `get` or `set` token. -/
def isAccessorToken (n : SyntaxNode) : Bool := !n.named && (n.kind == "get" || n.kind == "set")

/-- The node stands directly in a class body. -/
def inClassBody (parent : Option SyntaxNode) : Bool :=
  parent.any fun p => p.kind == "class_body"

/-- A method of a class or an object, an abstract method, or an overload in a class.
Constructors of classes and accessors are none, nor are signatures outside a class
body. -/
def isMethod (parent : Option SyntaxNode) (n : SyntaxNode) : Bool :=
  memberKinds.contains n.kind
    && !(n.kind == "method_signature" && !inClassBody parent)
    && !(inClassBody parent && (n.child? "name").any fun name => name.content == "constructor")
    && !n.children.any isAccessorToken

/-- A function in any of its shapes; constructors and accessors are none. -/
def isFunctionLike (parent : Option SyntaxNode) (n : SyntaxNode) : Bool :=
  n.named && (functionKinds.contains n.kind || isMethod parent n)

/-- A class, declared or in an expression. -/
def isClassLike (n : SyntaxNode) : Bool := n.named && classKinds.contains n.kind

/-- A number literal. One that ends in `n` is a big integer and is none. -/
def isNumericLiteral (n : SyntaxNode) : Bool :=
  n.named && n.kind == "number" && n.content.toList.getLast? != some 'n'

/-- The type `any`, written out. -/
def isAnyKeyword (n : SyntaxNode) : Bool :=
  n.named && n.kind == "predefined_type" && n.content == "any"

/-- The postfix `!`. -/
def isNonNullAssertion (n : SyntaxNode) : Bool := n.named && n.kind == "non_null_expression"

/-- The node makes a literal directly below it a named constant. -/
def isDeclarationContext (n : SyntaxNode) : Bool := declarationKinds.contains n.kind

/-! ## Measurements -/

/-- The number of declared parameters. An arrow with one bare parameter has no list
of parameters. -/
def parameterCount (n : SyntaxNode) : Nat :=
  match n.child? "parameters" with
  | some list => (list.namedChildren.filter (·.kind != "comment")).length
  | none => if (n.child? "parameter").isSome then 1 else 0

/-- The number of methods declared directly in the body. -/
def methodCount (n : SyntaxNode) : Nat :=
  match n.child? "body" with
  | some body => (body.namedChildren.filter (isMethod (some body))).length
  | none => 0

/-- The value of the number literal that the node's text is. -/
def numericValue (n : SyntaxNode) : Except NumeralError Binary64 := Reading.literal n.content

end CodeSmell.SyntaxNode
