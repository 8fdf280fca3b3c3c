/-
Violations: where and how a value is not what its schema says.

All violations of a value are listed, those of the value itself before those
inside it, and in the order in which a written schema states its keywords. One of
them is reported: the one nearest to the top; of several at one depth, the one
whose path comes last; of several at one place, one where the value is not even of
the kind that is asked for, as far as a kind is stated; and of those that are left
the first.
-/
import CodeSmell.Json.Display
import CodeSmell.Schema.Basic

set_option autoImplicit false

namespace CodeSmell

/-- A step from a value into it. -/
inductive Step where
  | field (name : String)
  | index (i : Nat)
  deriving DecidableEq, Repr

namespace Step

/-- The step as JSON. -/
def toJson : Step → Json
  | field name => .str name
  | index i => .int i

/-- The order of steps; no value has both fields and indexes. -/
def order : Step → Step → Ordering
  | field a, field b => compare a b
  | index i, index k => compare i k
  | index _, field _ => .lt
  | field _, index _ => .gt

/-- The order of paths, step by step. -/
def pathOrder : List Step → List Step → Ordering
  | [], [] => .eq
  | [], _ :: _ => .lt
  | _ :: _, [] => .gt
  | a :: as, b :: bs => (order a b).then (pathOrder as bs)

end Step

/-- What a value does not keep to. -/
inductive Breach where
  | wrongKind (value : Json) (kinds : List String)
  | unexpectedFields (names : List String)
  | missingField (name : String)
  | notExactly (text : String)
  | notOneOf (value : Json) (texts : List String)
  | belowMinimum (value : Json) (minimum : Int)
  | emptyText

namespace Breach

/-- The keyword of a written schema that is not kept to. -/
def keyword : Breach → String
  | wrongKind _ _ => "type"
  | unexpectedFields _ => "additionalProperties"
  | missingField _ => "required"
  | notExactly _ => "const"
  | notOneOf _ _ => "enum"
  | belowMinimum _ _ => "minimum"
  | emptyText => "minLength"

/-- The wording of the breach. -/
def message : Breach → String
  | wrongKind value kinds => value.shown ++ " is not of type " ++ Text.quotedList kinds
  | unexpectedFields names =>
    "Additional properties are not allowed (" ++ Text.quotedList names
      ++ (if names.length = 1 then " was" else " were") ++ " unexpected)"
  | missingField name => Text.quoted name ++ " is a required property"
  | notExactly text => Text.quoted text ++ " was expected"
  | notOneOf value texts => value.shown ++ " is not one of [" ++ Text.quotedList texts ++ "]"
  | belowMinimum value minimum =>
    value.shown ++ " is less than the minimum of " ++ integerText minimum
  | emptyText => "'' should be non-empty"

/-- The value is of the kind that its schema states. A schema that lists texts states
no kind. -/
def isOfStatedKind : Breach → Bool
  | wrongKind _ _ => false
  | notExactly _ => false
  | notOneOf _ _ => false
  | belowMinimum value _ => value.isWhole
  | unexpectedFields _ => true
  | missingField _ => true
  | emptyText => true

end Breach

/-- A breach with the path to the value that it is about. -/
structure Violation where
  path : List Step
  breach : Breach

namespace Violation

/-- The violation as seen from a value that the first one is in, one step up. -/
def under (step : Step) (v : Violation) : Violation := { v with path := step :: v.path }

/-- The first violation is rather reported than the second one. -/
def outranks (a b : Violation) : Bool :=
  match compare a.path.length b.path.length with
  | .lt => true
  | .gt => false
  | .eq =>
    match Step.pathOrder a.path b.path with
    | .gt => true
    | .lt => false
    | .eq => b.breach.isOfStatedKind && !a.breach.isOfStatedKind

/-- The violation to report, out of `best` and those that follow it. -/
def selectFrom (best : Violation) : List Violation → Violation
  | [] => best
  | v :: rest => selectFrom (if v.outranks best then v else best) rest

/-- The violation to report. -/
def select : List Violation → Option Violation
  | [] => none
  | v :: rest => some (selectFrom v rest)

end Violation

namespace Schema

/-- A violation by a value itself. -/
def here (b : Breach) : Violation := ⟨[], b⟩

/-- The breach, if it is one. -/
def breachIf (condition : Bool) (b : Breach) : List Violation :=
  if condition then [here b] else []

/-- The keys of an object that none of the fields has, in their order. -/
def unexpected (names : List String) (fields : List (String × Json)) : List String :=
  ((fields.map (·.1)).filter fun k => !names.contains k).mergeSort fun a b => decide (a ≤ b)

/-- Violations of elements, each under its index. -/
def underIndexes (violations : Json → List Violation) (i : Nat) : List Json → List Violation
  | [] => []
  | j :: rest =>
    (violations j).map (·.under (.index i)) ++ underIndexes violations (i + 1) rest

mutual
/-- The violations of a schema by a value. -/
def violations : Schema → Json → List Violation
  | exactly t, j =>
    breachIf (match j with | .str s => s != t | _ => true) (.notExactly t)
  | oneOf ts, j =>
    breachIf (match j with | .str s => !ts.contains s | _ => true) (.notOneOf j ts)
  | text nonEmpty, j =>
    match j with
    | .str s => breachIf (nonEmpty && s.isEmpty) .emptyText
    | _ => [here (.wrongKind j ["string"])]
  | textOrNull, j =>
    match j with
    | .str _ => []
    | .null => []
    | _ => [here (.wrongKind j ["string", "null"])]
  | integer minimum, j =>
    -- A fraction can be both no integer and too small.
    breachIf (!j.isWhole) (.wrongKind j ["integer"])
      ++ breachIf (j.isBelow minimum) (.belowMinimum j minimum)
  | list _ element, j =>
    match j with
    | .arr items => underIndexes (violations element) 0 items
    | _ => [here (.wrongKind j ["array"])]
  | record schemas, j =>
    match j with
    | .obj fields =>
      let extra := unexpected (schemas.map (·.1)) fields
      breachIf (!extra.isEmpty) (.unexpectedFields extra)
        ++ ((schemas.map (·.1)).filter fun name => (Json.field? fields name).isNone).map
          (fun name => here (.missingField name))
        ++ fieldViolations fields schemas
    | _ => [here (.wrongKind j ["object"])]

/-- The violations inside the fields that are there, field by field. -/
def fieldViolations (fields : List (String × Json)) :
    List (String × Schema) → List Violation
  | [] => []
  | (name, s) :: rest =>
    (match Json.field? fields name with
      | some j => (violations s j).map (·.under (.field name))
      | none => [])
      ++ fieldViolations fields rest
end

/-- Checks a value against a schema. -/
def check (s : Schema) (j : Json) : Except Violation Unit :=
  match Violation.select (s.violations j) with
  | none => .ok ()
  | some v => .error v

end Schema

end CodeSmell
