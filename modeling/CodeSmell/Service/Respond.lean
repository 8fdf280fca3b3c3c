/-
What the service answers.

Five endpoints, each with one method. A source is refused by its size before its
name, and both before it is analysed; that a source could not be analysed is never
answered as an analysis without findings. An answer may repeat what the request held;
where that cannot be sent, the service itself fails.
-/
import CodeSmell.Analysis
import CodeSmell.Intake.Limits
import CodeSmell.Service.Request
import CodeSmell.Service.Settings

set_option autoImplicit false

namespace CodeSmell.Service

/-- An answer. -/
structure Response where
  status : Nat
  body : Json

/-! ## Endpoints -/

/-- What the service can be asked. -/
inductive Endpoint where
  | about
  | health
  | ready
  | rules
  | analyze
  deriving DecidableEq, Repr

namespace Endpoint

/-- All endpoints. -/
def all : List Endpoint := [about, health, ready, rules, analyze]

/-- The path of an endpoint. -/
def path : Endpoint → String
  | about => "/"
  | health => "/health"
  | ready => "/ready"
  | rules => "/rules"
  | analyze => "/analyze"

/-- The method of an endpoint. -/
def method : Endpoint → String
  | analyze => "POST"
  | _ => "GET"

/-- The path of a request, without its query and with one slash in front. Two slashes
in front introduce a host, which is no part of the path. -/
def pathOf (target : String) : String :=
  let path :=
    match target.toList.takeWhile fun c => c ≠ '?' && c ≠ '#' with
    | '/' :: '/' :: hosted => hosted.dropWhile (· ≠ '/')
    | plain => plain
  String.ofList ('/' :: path.dropWhile (· = '/'))

/-- The endpoint of a request. -/
def ofTarget? (target : String) : Option Endpoint := all.find? fun e => e.path = pathOf target

end Endpoint

/-! ## Answers -/

/-- Why the service itself fails. -/
inductive Failure where
  /-- The answer would hold a fraction that is not finite. -/
  | notFinite
  /-- There are no bytes for a half of a surrogate pair. -/
  | notText
  /-- A finding has not the form of those in an answer. -/
  | notAnswerable
  | description (error : TemplateError)
  deriving DecidableEq, Repr

/-- An answer that says what is wrong. -/
def refusal (status : Nat) (detail : Json) : Response := ⟨status, .obj [("detail", detail)]⟩

/-- The status for a source that is refused before it is analysed. -/
def intakeStatus : IntakeError → Nat
  | .tooLarge _ _ => 413
  | .unsupported _ _ => 415

/-- The answer to a body that is no submission, if what it repeats can be sent. -/
def answerInvalid (fault : BodyFault) : Except Failure Response :=
  if !fault.inputs.all Json.Document.isFinite then .error .notFinite
  else if !fault.inputs.all Json.Document.isText then .error .notText
  else .ok (refusal 422 (.arr fault.entries))

/-- The detail for a source that could not be analysed. -/
def failureDetail (failure : ParseFailure) : Json :=
  .obj
    [("status", .str "failed"), ("error", .str failure.message), ("line", .int failure.line),
     ("column", .int failure.column)]

/-- The findings have the form of those in an answer, where lines are counted from one. -/
def isAnswerable (r : Report) : Bool := r.findings.all fun f => decide (1 ≤ f.line)

/-- The answer that holds the result of an analysis. -/
def answerReport (r : Report) : Except Failure Response :=
  if isAnswerable r then
    .ok ⟨200, .obj
      [("status", .str "complete"), ("variant", .str r.variant.text), ("count", .int r.count),
       ("findings", .arr (r.findings.map Finding.toJson)),
       ("diagnostics", .arr (r.diagnostics.map Diagnostic.toJson))]⟩
  else .error .notAnswerable

/-- The answer to a source that is taken in. -/
def answerSource (parser : SourceParser) (source : String) (filename : Option String) :
    Except Failure Response :=
  match CodeSmell.analyze parser source filename Catalogue.standard with
  | .ok report => answerReport report
  | .error (.unparsable failure) => .ok (refusal 422 (failureDetail failure))
  | .error (.description e) => .error (.description e)

/-- The answer to a submission. -/
def answerSubmission (s : Settings) (parser : SourceParser) (sub : Submission) :
    Except Failure Response :=
  match s.intake.checkText sub.source sub.filename with
  | .error e => .ok (refusal (intakeStatus e) (.str e.message))
  | .ok () => answerSource parser sub.source sub.filename

/-- The answer to a source under a name that is no text. Whether the name is taken in and
which grammar it selects depends on how it ends. A refusal would repeat it. -/
def answerBrokenName (s : Settings) (parser : SourceParser) (source ending : String) :
    Except Failure Response :=
  match s.intake.checkSize source.utf8ByteSize with
  | .error e => .ok (refusal (intakeStatus e) (.str e.message))
  | .ok () =>
    if s.intake.allowsName ending then answerSource parser source (some ending)
    else .error .notText

/-- What the service says about itself. -/
def aboutBody (s : Settings) : Json :=
  .obj
    [("name", .str "Smell Audit API"), ("version", .str toolVersion),
     ("environment", .str s.environment),
     ("endpoints", .arr (["/health", "/ready", "/rules", "/analyze"].map Json.str)),
     ("docs", .str (if s.debug then "/docs" else "disabled"))]

/-- The answer to the body of a request to analyse. -/
def answerBody (s : Settings) (parser : SourceParser) (body : String) : Except Failure Response :=
  match Submission.ofBody body with
  | .ok sub => answerSubmission s parser sub
  | .error .unconverted => .ok (refusal 400 (.str "There was an error parsing the body"))
  | .error .brokenSource => .error .notText
  | .error (.brokenName source ending) => answerBrokenName s parser source ending
  | .error fault => answerInvalid fault

/-- The answer of an endpoint. -/
def answer (s : Settings) (parser : SourceParser) (body : String) :
    Endpoint → Except Failure Response
  | .about => .ok ⟨200, aboutBody s⟩
  | .health => .ok ⟨200, .obj [("status", .str "ok"), ("version", .str toolVersion)]⟩
  | .ready => .ok ⟨200, .obj [("status", .str "ready"), ("rules", .int Catalogue.infos.length)]⟩
  | .rules => .ok ⟨200, .arr (Catalogue.infos.map RuleInfo.toJson)⟩
  | .analyze => answerBody s parser body

/-- What the service comes to on a request. Methods are compared without regard to case. -/
def handle (s : Settings) (parser : SourceParser) (r : Request) : Except Failure Response :=
  match Endpoint.ofTarget? r.target with
  | none => .ok (refusal 404 (.str "Not Found"))
  | some e =>
    if r.method.toUpper = e.method then answer s parser r.body e
    else .ok (refusal 405 (.str "Method Not Allowed"))

/-- The answer where the service itself fails. -/
def serverError : Response := refusal 500 (.str "Internal Server Error")

/-- The answer that is sent. -/
def sent : Except Failure Response → Response
  | .ok response => response
  | .error _ => serverError

/-- The answer to a request. -/
def respond (s : Settings) (parser : SourceParser) (r : Request) : Response :=
  sent (handle s parser r)

end CodeSmell.Service
