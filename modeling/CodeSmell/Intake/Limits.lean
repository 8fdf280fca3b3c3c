/-
What sources are taken in.

The analysis itself takes any text. Whoever feeds it may first refuse a source by
the ending of its name or by its size in bytes. Endings are compared without
regard to case; a list that holds the empty ending lets every name pass, an empty
list none.
-/
import CodeSmell.Text.Casing
import CodeSmell.Number.Numeral

set_option autoImplicit false

namespace CodeSmell

/-- The limits on sources, and the encoding that files are read in. -/
structure IntakeLimits where
  maxBytes : Int := 1024 * 1024
  suffixes : List String := [".ts", ".tsx"]
  encoding : String := "utf-8"
  deriving DecidableEq, Repr

/-- Why a source is refused before it is analysed. -/
inductive IntakeError where
  | unsupported (name : String) (allowed : List String)
  | tooLarge (size limit : Int)
  deriving DecidableEq, Repr

/-- The wording of the error. -/
def IntakeError.message : IntakeError → String
  | unsupported name allowed =>
    name ++ ": only " ++ ", ".intercalate allowed ++ " files are allowed"
  | tooLarge size limit =>
    s!"source is {integerText size} bytes; the limit is {integerText limit} bytes"

namespace IntakeLimits

/-- The name ends in one of the allowed endings. -/
def allowsName (l : IntakeLimits) (name : String) : Bool :=
  l.suffixes.any (Text.endsWithFolded name)

/-- Refuses a name without an allowed ending. -/
def checkName (l : IntakeLimits) (name : String) : Except IntakeError Unit :=
  if l.allowsName name then .ok () else .error (.unsupported name l.suffixes)

/-- Refuses a size above the limit. -/
def checkSize (l : IntakeLimits) (size : Int) : Except IntakeError Unit :=
  if l.maxBytes < size then .error (.tooLarge size l.maxBytes) else .ok ()

/-- Refuses a text, by its size in bytes and then by its name; a text without a name has
only its size checked. -/
def checkText (l : IntakeLimits) (text : String) (name : Option String) :
    Except IntakeError Unit := do
  l.checkSize text.utf8ByteSize
  match name with
  | some name => if name.isEmpty then return () else l.checkName name
  | none => return ()

end IntakeLimits

end CodeSmell
