/-
When the service itself fails.

A request is answered with a status that says what became of it, or the service fails at it
and answers that it did. Main statement (`fails_iff`): with trees whose rows are counted from
zero, the service fails at a request exactly if it is one to analyse and its body is no
submission, for one of three reasons. What is wrong with the body is answered with the part
that it is wrong with, and that part cannot be sent; or the source holds a half of a
surrogate pair; or the name does, and it is not taken in, which would be answered with the
name. A submission, then, is never a reason to fail, nor is a report on it.
-/
import CodeSmell.Proofs.Service.Agreement

set_option autoImplicit false

namespace CodeSmell.Service

/-- The service fails at a body with this fault. -/
inductive Unanswerable (s : Settings) : BodyFault → Prop
  | input {fault : BodyFault} {d : Json.Document} (repeated : d ∈ fault.inputs)
      (unsendable : ¬(d.isFinite = true ∧ d.isText = true)) : Unanswerable s fault
  | source : Unanswerable s .brokenSource
  | name {source ending : String} (fits : s.intake.checkSize source.utf8ByteSize = .ok ())
      (refused : s.intake.allowsName ending = false) : Unanswerable s (.brokenName source ending)

/-! ## Answers -/

/-- The statuses of the answers that the service comes to. -/
def statuses : List Nat := [200, 400, 404, 405, 413, 415, 422]

/-- The service comes to an answer. -/
def Answers (outcome : Except Failure Response) : Prop :=
  ∃ response, outcome = .ok response ∧ response.status ∈ statuses

theorem answers_ok {status : Nat} (h : status ∈ statuses) (body : Json) :
    Answers (.ok ⟨status, body⟩) :=
  ⟨_, rfl, h⟩

theorem answers_intake (e : IntakeError) :
    Answers (.ok (refusal (intakeStatus e) (.str e.message))) := by
  have hstatus : intakeStatus e ∈ statuses := by
    cases e <;> simp [intakeStatus, statuses]
  exact answers_ok hstatus _

/-- The answer where the service fails has a status of its own. -/
theorem Answers.sent_status_ne {outcome : Except Failure Response} (h : Answers outcome) :
    (sent outcome).status ≠ 500 := by
  obtain ⟨response, rfl, hstatus⟩ := h
  intro heq
  rw [sent] at heq
  rw [heq] at hstatus
  exact absurd hstatus (by decide)

/-! ## Bodies that are no submission -/

section

variable {fault : BodyFault}

theorem answers_invalid (h : ∀ d ∈ fault.inputs, d.isFinite = true ∧ d.isText = true) :
    Answers (answerInvalid fault) := by
  have hfinite : fault.inputs.all Json.Document.isFinite = true :=
    List.all_eq_true.mpr fun d hd => (h d hd).1
  have htext : fault.inputs.all Json.Document.isText = true :=
    List.all_eq_true.mpr fun d hd => (h d hd).2
  rw [answerInvalid, hfinite, htext]
  exact answers_ok (by decide) _

theorem exists_answerInvalid_eq_error {d : Json.Document} (hd : d ∈ fault.inputs)
    (h : ¬(d.isFinite = true ∧ d.isText = true)) :
    ∃ failure, answerInvalid fault = .error failure := by
  unfold answerInvalid
  by_cases hfinite : fault.inputs.all Json.Document.isFinite = true
  · have htext : ¬fault.inputs.all Json.Document.isText = true := fun hall =>
      h ⟨List.all_eq_true.mp hfinite d hd, List.all_eq_true.mp hall d hd⟩
    rw [hfinite, Bool.eq_false_iff.mpr htext]
    exact ⟨_, rfl⟩
  · rw [Bool.eq_false_iff.mpr hfinite]
    exact ⟨_, rfl⟩

end

section

variable {s : Settings} {body : String} {fault : BodyFault}
  (hbody : Submission.ofBody body = .error fault)

include hbody

theorem exists_answerBody_eq_error (h : Unanswerable s fault) (parser : SourceParser) :
    ∃ failure, answerBody s parser body = .error failure := by
  rw [answerBody, hbody]
  cases h with
  | @input _ d repeated unsendable =>
    have hinvalid := exists_answerInvalid_eq_error repeated unsendable
    cases fault with
    | notAnObject value => exact hinvalid
    | fields faults => exact hinvalid
    | absent | notJson | unconverted | brokenSource | brokenName => cases repeated
  | source => exact ⟨_, rfl⟩
  | name fits refused =>
    dsimp only
    rw [answerBrokenName, fits, refused]
    exact ⟨_, rfl⟩

end

/-! ## Requests -/

section

variable {parser : SourceParser}
  (rows : ∀ variant source, ∀ n ∈ (parser variant source).preorder, 0 ≤ n.start.row)

include rows

/-- A source that is taken in is answered, by a report or by the place where it is faulty. -/
theorem answers_source (source : String) (filename : Option String) :
    Answers (answerSource parser source filename) := by
  unfold answerSource
  rcases analyze_cases parser source filename (rows _ _) with ⟨report, hreport, hlines⟩
    | ⟨failure, hfailure⟩
  · rw [hreport]
    dsimp only
    rw [answerReport, if_pos hlines]
    exact answers_ok (by decide) _
  · rw [hfailure]
    exact answers_ok (by decide) _

theorem answers_submission (s : Settings) (sub : Submission) :
    Answers (answerSubmission s parser sub) := by
  unfold answerSubmission
  cases s.intake.checkText sub.source sub.filename with
  | error e => exact answers_intake e
  | ok => exact answers_source rows sub.source sub.filename

theorem answers_brokenName {s : Settings} {source ending : String}
    (h : ¬Unanswerable s (.brokenName source ending)) :
    Answers (answerBrokenName s parser source ending) := by
  unfold answerBrokenName
  cases hsize : s.intake.checkSize source.utf8ByteSize with
  | error e => exact answers_intake e
  | ok =>
    have hname : s.intake.allowsName ending = true :=
      eq_true_of_ne_false fun refused => h (.name hsize refused)
    dsimp only
    rw [if_pos hname]
    exact answers_source rows source (some ending)

/-- A body is answered unless the service fails at what is wrong with it. -/
theorem answers_body {s : Settings} {body : String}
    (h : ∀ fault, Submission.ofBody body = .error fault → ¬Unanswerable s fault) :
    Answers (answerBody s parser body) := by
  unfold answerBody
  cases hbody : Submission.ofBody body with
  | ok sub => exact answers_submission rows s sub
  | error fault =>
    have hfault := h fault hbody
    -- Only a body whose name alone is no text comes to an analysis here; all others are
    -- answered with what is wrong with them, which can be sent.
    have hinputs : ∀ d ∈ fault.inputs, d.isFinite = true ∧ d.isText = true := fun d hd =>
      not_not.mp fun unsendable => hfault (.input hd unsendable)
    cases fault with
    | unconverted => exact answers_ok (by decide) _
    | brokenSource => exact absurd .source hfault
    | brokenName source ending => exact answers_brokenName rows hfault
    | absent | notJson | notAnObject | fields => exact answers_invalid hinputs

/-- **When the service fails.** With trees whose rows are counted from zero, the service fails
at a request, whatever its settings, exactly if it is a request to analyse whose body is no
submission for one of the reasons to fail. -/
theorem fails_iff (s : Settings) (r : Request) :
    (respond s parser r).status = 500
      ↔ Endpoint.ofTarget? r.target = some .analyze ∧ r.method.toUpper = "POST"
        ∧ ∃ fault, Submission.ofBody r.body = .error fault ∧ Unanswerable s fault := by
  constructor
  · intro hstatus
    by_contra hnot
    -- Everything but the failures named has an answer, and no answer has that status.
    refine Answers.sent_status_ne ?_ hstatus
    unfold handle
    cases htarget : Endpoint.ofTarget? r.target with
    | none => exact answers_ok (by decide) _
    | some e =>
      dsimp only
      split
      · next hmethod =>
        cases e with
        | analyze =>
          refine answers_body rows fun fault hbody hfault => hnot ?_
          exact ⟨htarget, hmethod, fault, hbody, hfault⟩
        | about | health | ready | rules => exact answers_ok (by decide) _
      · exact answers_ok (by decide) _
  · rintro ⟨htarget, hmethod, fault, hbody, hfault⟩
    obtain ⟨failure, herror⟩ := exists_answerBody_eq_error hbody hfault parser
    rw [respond, handle, htarget]
    simp only [hmethod, Endpoint.method, if_true, answer, herror]
    rfl

end

/-- A name that holds a half of a pair, in front of an ending that is not taken in. -/
example :
    (match Submission.ofBody "\x7b\"source\": \"\", \"filename\": \"a\\ud800.js\"\x7d" with
      | .error (.brokenName source ending) => source == "" && ending == ".js"
      | _ => false) = true := by
  decide +kernel

end CodeSmell.Service
