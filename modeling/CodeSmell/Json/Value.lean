/-
JSON values.

Integers are unbounded and apart from fractions, because a reader can tell them
apart by their spelling and a writer spells them differently. An object is a list
of fields in the order they came; putting a key that is there replaces its value
where it stands, so a key occurs once in whatever is built by `put`.
-/
import CodeSmell.Number.Binary64

set_option autoImplicit false

namespace CodeSmell

/-- A JSON value. -/
inductive Json where
  | null
  | bool (b : Bool)
  | int (n : Int)
  | float (x : Binary64)
  | str (s : String)
  | arr (items : List Json)
  | obj (fields : List (String × Json))
  deriving Inhabited

namespace Json

/-- Puts a field into a list of fields: in place of the one with the same key, else
at the end. -/
def put {κ α : Type} [DecidableEq κ] (key : κ) (value : α) : List (κ × α) → List (κ × α)
  | [] => [(key, value)]
  | (k, v) :: rest => if k = key then (k, value) :: rest else (k, v) :: put key value rest

/-- The value of a field. -/
def field? (fields : List (String × Json)) (key : String) : Option Json := fields.lookup key

/-- The value of a field of an object; nothing for any other value. -/
def get? (j : Json) (key : String) : Option Json :=
  match j with
  | obj fields => field? fields key
  | _ => none

end Json

end CodeSmell
