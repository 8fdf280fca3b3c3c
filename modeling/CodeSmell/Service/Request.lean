/-
What the service is asked, and the requests that it cannot read.

A request to analyse has a JSON object as its body, with the source under one key
and possibly a name under another; other keys are not looked at. Everything that
is wrong with the two is reported at once. Both are strings then, but a string need
not be a text: it may hold a half of a surrogate pair.
-/
import CodeSmell.Json.Reader

set_option autoImplicit false

namespace CodeSmell.Service

open Json (Document Spelling SyntaxFault)

/-- A request as it comes in. -/
structure Request where
  method : String
  /-- The path, possibly with a query behind it. -/
  target : String
  body : String := ""
  deriving DecidableEq, Repr

/-- A source to analyse. -/
structure Submission where
  source : String
  filename : Option String
  deriving DecidableEq, Repr

/-- What is wrong with a field of a submission. -/
inductive FieldFault where
  /-- The field is not in the object. -/
  | missing (name : String) (object : Document)
  /-- The field is not a string. -/
  | notString (name : String) (value : Document)

/-- Why a body is no submission. -/
inductive BodyFault where
  | absent
  | notJson (fault : SyntaxFault)
  /-- A number in the body is too long to be converted. -/
  | unconverted
  | notAnObject (value : Document)
  | fields (faults : List FieldFault)
  /-- The source is a string, but no text. -/
  | brokenSource
  /-- The name is a string, but no text; a text stands behind its last half. -/
  | brokenName (source ending : String)

/-- The entry of a fault in the list of faults. -/
def faultEntry (type message : String) (place : List Json) (input : Json) : List (String × Json) :=
  [("type", .str type), ("loc", .arr (.str "body" :: place)), ("msg", .str message),
   ("input", input)]

namespace FieldFault

/-- What the entry of the fault repeats. -/
def input : FieldFault → Document
  | missing _ object => object
  | notString _ value => value

/-- The fault as an entry. -/
def toJson : FieldFault → Json
  | missing name object => .obj (faultEntry "missing" "Field required" [.str name] object.toJson)
  | notString name value =>
    .obj (faultEntry "string_type" "Input should be a valid string" [.str name] value.toJson)

end FieldFault

namespace BodyFault

/-- What the entries of the fault repeat of the body. -/
def inputs : BodyFault → List Document
  | notAnObject value => [value]
  | fields faults => faults.map FieldFault.input
  | _ => []

/-- The faults of a body as entries. -/
def entries : BodyFault → List Json
  | absent => [.obj (faultEntry "missing" "Field required" [] .null)]
  | notJson fault =>
    [.obj
      (faultEntry "json_invalid" "JSON decode error" [.int fault.position] (.obj [])
        ++ [("ctx", .obj [("error", .str fault.kind.message)])])]
  | notAnObject value =>
    [.obj
      (faultEntry "model_attributes_type"
        "Input should be a valid dictionary or object to extract fields from" [] value.toJson)]
  | fields faults => faults.map FieldFault.toJson
  | unconverted | brokenSource | brokenName _ _ => []

end BodyFault

namespace Submission

/-- Reads the source of an object. -/
def readSource (object : Document) : Except FieldFault Spelling :=
  match object.get? "source" with
  | none => .error (.missing "source" object)
  | some (.str s) => .ok s
  | some value => .error (.notString "source" value)

/-- Reads the name in an object; there need not be one, and it may be null. -/
def readFilename (object : Document) : Except FieldFault (Option Spelling) :=
  match object.get? "filename" with
  | none => .ok none
  | some .null => .ok none
  | some (.str s) => .ok (some s)
  | some value => .error (.notString "filename" value)

/-- The submission of a source and a name, if they are texts. -/
def ofStrings (source : Spelling) (filename : Option Spelling) : Except BodyFault Submission :=
  if source.isText then
    match filename with
    | none => .ok ⟨source.shown, none⟩
    | some name =>
      if name.isText then .ok ⟨source.shown, some name.shown⟩
      else .error (.brokenName source.shown name.ending)
  else .error .brokenSource

/-- The submission in a document. -/
def ofDocument (d : Document) : Except BodyFault Submission :=
  match d with
  | .obj _ =>
    match readSource d, readFilename d with
    | .ok source, .ok filename => ofStrings source filename
    | .error e, .ok _ => .error (.fields [e])
    | .ok _, .error f => .error (.fields [f])
    | .error e, .error f => .error (.fields [e, f])
  | _ => .error (.notAnObject d)

/-- A text without a byte order mark in front. -/
def withoutMark : List Char → List Char
  | '\ufeff' :: rest => rest
  | cs => cs

/-- The submission in a body. -/
def ofBody (body : String) : Except BodyFault Submission :=
  if body.isEmpty then .error .absent
  else
    match Document.parse (withoutMark body.toList) with
    | .ok d => ofDocument d
    | .error fault =>
      match fault.kind with
      | .number _ => .error .unconverted
      | _ => .error (.notJson fault)

end Submission

end CodeSmell.Service
