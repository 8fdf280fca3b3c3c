/-
Schemas: what a JSON value has to be.

A schema is one of seven forms, and what each of them accepts is said twice. The
relation `Conforms` says it as a whole: a record has exactly the named fields and
each of them conforms, an integer may be written as a fraction without a
fractional part, and so on. The list of violations, in the module on violations,
says it fault by fault. A schema can also be written out as a JSON document, in
which the elements of lists are defined apart and referred to by name.
-/
import CodeSmell.Json.Value

set_option autoImplicit false

namespace CodeSmell

/-- What a value has to be. -/
inductive Schema where
  /-- This very text. -/
  | exactly (text : String)
  /-- One of these texts. -/
  | oneOf (texts : List String)
  /-- A text, which may be asked not to be empty. -/
  | text (nonEmpty : Bool)
  /-- A text or null. -/
  | textOrNull
  /-- An integer that is not below a limit. -/
  | integer (minimum : Int)
  /-- An array of such elements; the name is that of their definition. -/
  | list (name : String) (element : Schema)
  /-- An object with exactly these fields. -/
  | record (fields : List (String × Schema))
  deriving Inhabited

namespace Json

/-- The value is an integer, also if it is written as a fraction. -/
def isWhole : Json → Bool
  | int _ => true
  | float x => x.isIntegral
  | _ => false

/-- The value is a number below a limit. -/
def isBelow (limit : Int) : Json → Bool
  | int n => decide (n < limit)
  | float x => x.ltInt limit
  | _ => false

end Json

namespace Schema

/-- The value is what the schema says. -/
inductive Conforms : Schema → Json → Prop where
  | exactly (t : String) : Conforms (.exactly t) (.str t)
  | oneOf {ts : List String} {t : String} (listed : t ∈ ts) : Conforms (.oneOf ts) (.str t)
  | text {nonEmpty : Bool} {t : String} (filled : nonEmpty = true → t ≠ "") :
      Conforms (.text nonEmpty) (.str t)
  | nullText : Conforms .textOrNull .null
  | someText (t : String) : Conforms .textOrNull (.str t)
  | integer {minimum : Int} {j : Json} (whole : j.isWhole = true)
      (large : j.isBelow minimum = false) : Conforms (.integer minimum) j
  | list {name : String} {element : Schema} {items : List Json}
      (each : ∀ j ∈ items, Conforms element j) : Conforms (.list name element) (.arr items)
  | record {schemas : List (String × Schema)} {fields : List (String × Json)}
      (known : ∀ f ∈ fields, f.1 ∈ schemas.map (·.1))
      (present : ∀ s ∈ schemas, (Json.field? fields s.1).isSome = true)
      (each : ∀ s ∈ schemas, ∀ j, Json.field? fields s.1 = some j → Conforms s.2 j) :
      Conforms (.record schemas) (.obj fields)

/-! ## The written schema -/

/-- The keyword that states the kind of a value, with the kind. -/
def kind (name : String) : String × Json := ("type", .str name)

mutual
/-- The schema as a JSON object. -/
def toJson : Schema → Json
  | exactly t => .obj [("const", .str t)]
  | oneOf ts => .obj [("enum", .arr (ts.map Json.str))]
  | text nonEmpty => .obj (kind "string" :: if nonEmpty then [("minLength", .int 1)] else [])
  | textOrNull => .obj [("type", .arr [.str "string", .str "null"])]
  | integer minimum => .obj [kind "integer", ("minimum", .int minimum)]
  | list name _ => .obj [kind "array", ("items", .obj [("$ref", .str ("#/$defs/" ++ name))])]
  | record fields =>
    .obj
      [kind "object", ("additionalProperties", .bool false),
       ("required", .arr (fields.map fun f => .str f.1)), ("properties", .obj (fieldsJson fields))]

/-- The schemas of fields as JSON objects. -/
def fieldsJson : List (String × Schema) → List (String × Json)
  | [] => []
  | (name, s) :: rest => (name, toJson s) :: fieldsJson rest
end

mutual
/-- The definitions that a written schema refers to. -/
def definitions : Schema → List (String × Json)
  | list name element => (name, toJson element) :: definitions element
  | record fields => fieldDefinitions fields
  | _ => []

/-- The definitions that the written schemas of fields refer to. -/
def fieldDefinitions : List (String × Schema) → List (String × Json)
  | [] => []
  | (_, s) :: rest => definitions s ++ fieldDefinitions rest
end

/-- The fields of an object; none for any other value. -/
def objectFields : Json → List (String × Json)
  | .obj fields => fields
  | _ => []

/-- The schema as a document of its own. -/
def document (s : Schema) (id title : String) : Json :=
  .obj
    (("$schema", .str "https://json-schema.org/draft/2020-12/schema") :: ("$id", .str id)
      :: ("title", .str title) :: objectFields s.toJson
      ++ [("$defs", .obj s.definitions)])

end Schema

end CodeSmell
