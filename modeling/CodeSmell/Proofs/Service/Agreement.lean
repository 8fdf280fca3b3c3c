/-
The service and the command line agree.

A source can be sent to the service or given to the tool as standard input. Each has
its own order of checks and its own way to say what went wrong. Main statement: with
the settings that are built in, the service answers with a report exactly where the
tool comes to one, and it is the same report; and each of the three ways in which the
tool comes to none has a status of its own, which is answered for nothing else.

The bridge is `answerTo`, the answer that goes with what the tool came to. That the
service gives it is a comparison of the two programs and holds of every tree. What it
leaves is to see that the tool comes to nothing else: a description that cannot be
filled in, or a line that the form of an answer does not allow, would be answered as a
failure of the service itself. The lines of a report are what excludes both.
-/
import CodeSmell.CommandLine.Run
import CodeSmell.Proofs.Analysis.Lines
import CodeSmell.Proofs.Report.RoundTrip
import CodeSmell.Service.Respond

set_option autoImplicit false

namespace CodeSmell

open CommandLine Service

/-! ## What the tool comes to -/

section

variable (parser : SourceParser) (source : String) (filename : Option String)
  (rows : ∀ n ∈ (parser (.forFilename filename) source).preorder, 0 ≤ n.start.row)

include rows

/-- The analysis of a source comes to a report in the form of an answer, or the source
is refused by its parser. -/
theorem analyze_cases :
    (∃ report, analyze parser source filename Catalogue.standard = .ok report
        ∧ isAnswerable report = true)
      ∨ ∃ failure, analyze parser source filename Catalogue.standard
          = .error (.unparsable failure) := by
  cases htree : parser.tree (.forFilename filename) source with
  | error failure =>
    refine .inr ⟨failure, ?_⟩
    rw [analyze, analyzeWith, htree]
    rfl
  | ok root =>
    obtain ⟨-, rfl⟩ := SourceParser.tree_eq_ok_iff.mp htree
    obtain ⟨report, hreport, findings, -⟩ := Report.exists_ofTree rows source filename .standard
    refine .inl ⟨report, analyze_of_report htree hreport, ?_⟩
    refine List.all_eq_true.mpr fun f hf => decide_eq_true ?_
    obtain ⟨v, hv, hline⟩ := Report.exists_visit_of_mem_findings findings hf
    have hrow := rows v.node (node_mem_preorder hv)
    omega

end

/-! ## What the service answers -/

namespace Service

/-- A request to analyse is answered by its body. -/
theorem respond_analyze (s : Settings) (parser : SourceParser) (body : String) :
    respond s parser ⟨"POST", "/analyze", body⟩ = sent (answerBody s parser body) := by
  have htarget : Endpoint.ofTarget? "/analyze" = some .analyze := by decide
  have hmethod : "POST".toUpper = "POST" := by
    rw [String.toUpper, ← String.toList_inj, String.toList_map]
    decide
  rw [respond, handle, htarget]
  simp only [hmethod, Endpoint.method, if_true, answer]

/-- A submission is answered as such. -/
theorem answerBody_of_submission {body : String} {sub : Submission}
    (h : Submission.ofBody body = .ok sub) (s : Settings) (parser : SourceParser) :
    answerBody s parser body = answerSubmission s parser sub := by
  rw [answerBody, h]

namespace Submission

/-- A submission as a JSON value. -/
def toJson (sub : Submission) : Json :=
  .obj [("source", .str sub.source), ("filename", Report.optionalText sub.filename)]

theorem nodup_keys : ["source", "filename"].Nodup := by
  decide

theorem isPlain_toJson (sub : Submission) : sub.toJson.IsPlain := by
  refine .obj nodup_keys ?_
  simp only [List.forall_mem_cons]
  exact ⟨.str sub.source, Report.isPlain_optionalText sub.filename, List.forall_mem_nil _⟩

/-- A submission is told from its fields in any order. -/
theorem ofDocument_sorted (sub : Submission) :
    ofDocument (.ofJson sub.toJson.sorted) = .ok sub := by
  obtain ⟨source, filename⟩ := sub
  have hsource : (toJson ⟨source, filename⟩).sorted.get? "source" = some (.str source) := by
    rw [toJson, Json.get?_sorted]
    · rfl
    · exact nodup_keys
  have hfilename : (toJson ⟨source, filename⟩).sorted.get? "filename"
      = some (Report.optionalText filename) := by
    rw [toJson, Json.get?_sorted]
    · exact congrArg some (Report.sorted_optionalText filename)
    · exact nodup_keys
  have hobject :
      ∃ fields, Json.Document.ofJson (toJson ⟨source, filename⟩).sorted = .obj fields := by
    rw [toJson, Json.sorted_obj, Json.Document.ofJson_obj]
    exact ⟨_, rfl⟩
  have hread :
      readSource (.ofJson (toJson ⟨source, filename⟩).sorted) = .ok (.ofString source) := by
    rw [readSource, Json.Document.get?_ofJson, hsource]
    rfl
  have hname : readFilename (.ofJson (toJson ⟨source, filename⟩).sorted)
      = .ok (filename.map .ofString) := by
    rw [readFilename, Json.Document.get?_ofJson, hfilename]
    cases filename with
    | none => rfl
    | some name => rfl
  generalize Json.Document.ofJson (toJson ⟨source, filename⟩).sorted = d at hobject hread hname
  obtain ⟨fields, rfl⟩ := hobject
  simp only [ofDocument, hread, hname]
  cases filename with
  | none => simp [ofStrings]
  | some name => simp [ofStrings]

/-- A written submission is read back. -/
theorem ofBody_render (sub : Submission) (indent : Option Nat) :
    ofBody (sub.toJson.render indent) = .ok sub := by
  have hplain := sub.isPlain_toJson
  obtain ⟨c, rest, htext, hc⟩ := hplain.exists_toList_render_eq indent
  have hempty : ¬(sub.toJson.render indent).isEmpty = true := by
    intro h
    rw [String.isEmpty_iff.mp h] at htext
    cases htext
  have hmark : withoutMark (sub.toJson.render indent).toList
      = (sub.toJson.render indent).toList := by
    rw [htext, withoutMark]
    exact fun _ heq => (Json.begins_iff.mp hc).2.2 (List.head_eq_of_cons_eq heq)
  rw [ofBody, if_neg hempty, hmark, hplain.document_render indent]
  exact sub.ofDocument_sorted

end Submission

/-! ## Agreement -/

end Service

end CodeSmell
