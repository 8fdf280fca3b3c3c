/-
How the tool ends.

`World.Ends` has one case for each way in which a command ends, with what is put out and
how things stand afterwards; that a run ends in one of them is the only fact about the
steps of the tool that the rest needs. Main statement: wherever the tool ends with a
status, the status says whether there was a report and whether anything was found, and
where there was none the tool put out nothing and changed nothing. To look at a source
with its report as JSON and to export that report come to the same.
-/
import CodeSmell.Proofs.CommandLine.Line
import CodeSmell.Proofs.CommandLine.Report
import CodeSmell.Proofs.Intake.Path

set_option autoImplicit false

namespace CodeSmell.CommandLine

variable {σ : Type}

/-! ## Ways to end -/

/-- The source that a command looks at, with the name that is given for it. -/
def Command.source? : Command → Option (String × Option String)
  | .inspect target filename _ => some (target, filename)
  | .render target filename _ _ => some (target, filename)
  | .idle | .listRules _ => none

namespace World

variable (w : World (StateM σ)) (s : σ)

/-- The report that a command looks for, if there is one. -/
def report? (c : Command) : Option Report :=
  c.source?.bind fun (target, filename) => (w.reportOn s target filename).toOption

/-- How a command ends. -/
inductive Ends : Command → Outcome → σ → Prop
  | idle (errors : String) : Ends .idle ⟨.ok .error, "", errors⟩ s
  | listed (json : Bool) : Ends (.listRules json) ⟨.ok .success, ruleList json, ""⟩ s
  | refused {c : Command} {target : String} {filename : Option String} {r : Refusal}
      (source : c.source? = some (target, filename))
      (refusal : w.reportOn s target filename = .error r) (log : String) :
      Ends c (refuse log target filename r) s
  | inspected {target : String} {filename : Option String} {report : Report}
      (found : w.reportOn s target filename = .ok report) (json : Bool) (errors : String) :
      Ends (.inspect target filename json)
        ⟨.ok (statusOf report), if json then report.exportJson Json.reportIndent else "", errors⟩ s
  | rendered {target : String} {filename : Option String} {report : Report}
      (found : w.reportOn s target filename = .ok report) (format : ExportFormat)
      (errors : String) :
      Ends (.render target filename format none)
        ⟨.ok (statusOf report), report.exportAs format, errors⟩ s
  | saved {target : String} {filename : Option String} {report : Report}
      {format : ExportFormat} {path : Path} {after : σ}
      (found : w.reportOn s target filename = .ok report)
      (success : (save w path (report.exportAs format)).run s = (.ok (), after))
      (errors : String) :
      Ends (.render target filename format (some path))
        ⟨.ok (statusOf report), "", errors⟩ after
  | unsaved {target : String} {filename : Option String} {report : Report}
      {format : ExportFormat} {path : Path} {error : FileError} {after : σ}
      (found : w.reportOn s target filename = .ok report)
      (failure : (save w path (report.exportAs format)).run s = (.error error, after))
      (errors : String) :
      Ends (.render target filename format (some path)) ⟨.error (.file error), "", errors⟩ after

variable {w s}

namespace Quiet

variable (quiet : w.Quiet)

include quiet

theorem ends_inspect (verbose : Bool) (target : String) (filename : Option String) (json : Bool) :
    w.Ends s (.inspect target filename json)
      ((inspect w verbose target filename json).run s).1
      ((inspect w verbose target filename json).run s).2 := by
  obtain ⟨events, hattempt⟩ := quiet.run_attempt s target filename
  unfold inspect
  rw [run_bind_of_still hattempt]
  dsimp only
  cases hreport : w.reportOn s target filename with
  | error r => exact .refused rfl hreport _
  | ok report => exact .inspected hreport json _

theorem ends_render (verbose : Bool) (target : String) (filename : Option String)
    (format : ExportFormat) (output : Option Path) :
    w.Ends s (.render target filename format output)
      ((render w verbose target filename format output).run s).1
      ((render w verbose target filename format output).run s).2 := by
  obtain ⟨events, hattempt⟩ := quiet.run_attempt s target filename
  unfold render
  rw [run_bind_of_still hattempt]
  dsimp only
  cases hreport : w.reportOn s target filename with
  | error r => exact .refused rfl hreport _
  | ok report =>
    cases output with
    | none => exact .rendered hreport format _
    | some path =>
      -- Saving is the one step that changes something, so its run is taken as it comes.
      dsimp only
      rw [StateT.run_bind]
      obtain ⟨result, after, hsave⟩ : ∃ result after,
        (save w path (report.exportAs format)).run s = (result, after) := ⟨_, _, rfl⟩
      rw [hsave]
      cases result with
      | error error => exact .unsaved hreport hsave _
      | ok => exact .saved hreport hsave _

/-- The tool ends in one of the ways to end. -/
theorem ends_run {arguments : List String} {i : Invocation}
    (hread : Invocation.read arguments = .ok i) {outcome : Outcome} {after : σ}
    (hrun : (run w arguments).run s = (outcome, after)) : w.Ends s i.command outcome after := by
  obtain ⟨verbose, c⟩ := i
  rw [run, hread] at hrun
  obtain rfl := congrArg Prod.fst hrun
  obtain rfl := congrArg Prod.snd hrun
  match c with
  | .idle => exact .idle _
  | .listRules json => exact .listed json
  | .inspect target filename json => exact quiet.ends_inspect verbose target filename json
  | .render target filename format output =>
    exact quiet.ends_render verbose target filename format output

end Quiet

end World

/-! ## What a status says -/

/-- A status says whether there is a report, and whether anything is found in it. -/
structure Tells (status : ExitStatus) (report : Option Report) : Prop where
  nothing : status.code = 0 ↔ ∃ r, report = some r ∧ r.count = 0
  something : status.code = 1 ↔ ∃ r, report = some r ∧ 0 < r.count
  unknown : status.code = 2 ↔ report = none

theorem tells_error : Tells .error none := by
  constructor <;> simp [ExitStatus.code]

theorem tells_statusOf (r : Report) : Tells (statusOf r) (some r) := by
  unfold statusOf
  cases hfindings : r.findings with
  | nil => constructor <;> simp [ExitStatus.code, Report.count, hfindings]
  | cons f rest => constructor <;> simp [ExitStatus.code, Report.count, hfindings]

namespace World

variable {w : World (StateM σ)} {s : σ} {c : Command} {target : String}
  {filename : Option String}

theorem report?_of_found (source : c.source? = some (target, filename)) {report : Report}
    (found : w.reportOn s target filename = .ok report) : w.report? s c = some report := by
  simp only [report?, source, Option.bind_some, found]
  rfl

theorem report?_of_refused (source : c.source? = some (target, filename)) {r : Refusal}
    (refusal : w.reportOn s target filename = .error r) : w.report? s c = none := by
  simp only [report?, source, Option.bind_some, refusal]
  rfl

theorem refuse_ending_of_refused {r : Refusal}
    (refusal : w.reportOn s target filename = .error r) (log : String) :
    (refuse log target filename r).ending = .ok .error
      ∨ ∃ e, r = .source (.unreadable e) ∧ e.fault = .zeroInPath
        ∧ (refuse log target filename r).ending = .error (.file e) :=
  refuse_ending (fun e heq => w.reportOn_ne_description s target filename e (heq ▸ refusal)) log
    target filename

namespace Ends

/-- A command whose source is refused ends with the refusal. -/
theorem eq_refuse {outcome : Outcome} {after : σ} (ends : w.Ends s c outcome after)
    (source : c.source? = some (target, filename)) {r : Refusal}
    (refusal : w.reportOn s target filename = .error r) :
    ∃ log, outcome = refuse log target filename r ∧ after = s := by
  cases ends with
  | idle => cases source
  | listed => cases source
  | refused source' refusal' log =>
    cases source.symm.trans source'
    cases refusal.symm.trans refusal'
    exact ⟨log, rfl, rfl⟩
  | inspected found | rendered found | saved found | unsaved found =>
    cases source
    cases refusal.symm.trans found

variable {outcome : Outcome} {after : σ} (ends : w.Ends s c outcome after)
  (hrules : ∀ json, c ≠ .listRules json)

include ends hrules

/-- The status of a command that looks for a report says what came of it. -/
theorem tells {status : ExitStatus} (hstatus : outcome.ending = .ok status) :
    Tells status (w.report? s c) := by
  cases ends with
  | idle =>
    cases hstatus
    exact tells_error
  | listed json => exact absurd rfl (hrules json)
  | refused source refusal log =>
    rw [report?_of_refused source refusal]
    rcases refuse_ending_of_refused refusal log with hending | ⟨e, -, -, hending⟩
    · rw [hending] at hstatus
      cases hstatus
      exact tells_error
    · rw [hending] at hstatus
      cases hstatus
  | inspected found | rendered found | saved found =>
    cases hstatus
    rw [report?_of_found rfl found]
    exact tells_statusOf _
  | unsaved => cases hstatus

/-- Without a report nothing is put out, nothing is changed, and the status is that of an
error unless no machine was asked about the path. -/
theorem silent (hnone : w.report? s c = none) :
    outcome.output = "" ∧ after = s
      ∧ (outcome.ending = .ok .error
        ∨ ∃ e, e.fault = .zeroInPath ∧ outcome.ending = .error (.file e)) := by
  cases ends with
  | idle => exact ⟨rfl, rfl, .inl rfl⟩
  | listed json => exact absurd rfl (hrules json)
  | refused source refusal log =>
    refine ⟨refuse_output log _ _ _, rfl, ?_⟩
    rcases refuse_ending_of_refused refusal log with hending | ⟨e, -, hzero, hending⟩
    · exact .inl hending
    · exact .inr ⟨e, hzero, hending⟩
  | inspected found | rendered found | saved found | unsaved found =>
    rw [report?_of_found rfl found] at hnone
    cases hnone

end Ends

/-- A report that is put out as JSON is put out alike by both commands. -/
theorem Ends.inspect_render {shown exported : Outcome} {after after' : σ}
    (hshown : w.Ends s (.inspect target filename true) shown after)
    (hexported : w.Ends s (.render target filename .json none) exported after') :
    shown.ending = exported.ending ∧ shown.output = exported.output := by
  cases hshown with
  | refused source refusal log =>
    cases source
    obtain ⟨log', rfl, -⟩ := hexported.eq_refuse rfl refusal
    exact ⟨refuse_ending_eq .., by rw [refuse_output, refuse_output]⟩
  | inspected found =>
    cases hexported with
    | refused source refusal =>
      cases source
      cases found.symm.trans refusal
    | rendered found' =>
      cases found.symm.trans found'
      exact ⟨rfl, rfl⟩

end World

/-! ## The outcome of a run -/

/-- **A status tells what came of a source.** Take any state of the files and the standard
input, where looking at them changes nothing, as it does with described files
(`quiet_storeWorld`), and any command line that is read and does not ask for the list of
the rules. A status that the tool ends with is 0 exactly if there is a report without
findings, 1 exactly if there is one with findings, and 2 exactly if there is none. Where
there is none, the tool puts out nothing and leaves everything as it was, and it ends with
this status, save for a path that no machine can be asked about. A source that is looked
at with its report as JSON ends as one whose report is exported as JSON, and puts out the
same; each target and each name can be written on both command lines. -/
theorem status_tells_of_report (w : World (StateM σ)) (quiet : w.Quiet) (s : σ) :
    (∀ arguments i outcome after, Invocation.read arguments = .ok i →
        (∀ json, i.command ≠ .listRules json) → (run w arguments).run s = (outcome, after) →
        (∀ status, outcome.ending = .ok status → Tells status (w.report? s i.command))
          ∧ (w.report? s i.command = none → outcome.output = "" ∧ after = s
            ∧ (outcome.ending = .ok .error
              ∨ ∃ e, e.fault = .zeroInPath ∧ outcome.ending = .error (.file e))))
      ∧ (∀ looking exporting target filename verbose verbose',
          Invocation.read looking = .ok ⟨verbose, .inspect target filename true⟩ →
          Invocation.read exporting = .ok ⟨verbose', .render target filename .json none⟩ →
          ((run w looking).run s).1.ending = ((run w exporting).run s).1.ending
            ∧ ((run w looking).run s).1.output = ((run w exporting).run s).1.output)
      ∧ ∀ target filename, namesSource [target] = true →
          Invocation.read (inspectLine target filename)
              = .ok ⟨false, .inspect target filename true⟩
            ∧ Invocation.read (renderLine target filename)
              = .ok ⟨false, .render target filename .json none⟩ := by
  refine ⟨?_, ?_, ?_⟩
  · intro arguments i outcome after hread hrules hrun
    have ends := quiet.ends_run hread hrun
    exact ⟨fun _ => ends.tells hrules, ends.silent hrules⟩
  · intro looking exporting target filename verbose verbose' hlooking hexporting
    exact World.Ends.inspect_render (quiet.ends_run hlooking rfl) (quiet.ends_run hexporting rfl)
  · intro target filename htarget
    exact ⟨read_inspectLine htarget filename, read_renderLine htarget filename⟩

/-- A folder that is named like a source. -/
def folderNamedLikeSource : FileStore := [(["a.ts"], .folder)]

theorem lookFails_folderNamedLikeSource (input : ByteArray) (parser : SourceParser) :
    (storeWorld input parser).LookFails folderNamedLikeSource (Path.ofText "a.ts")
      ⟨.isFolder, Path.ofText "a.ts"⟩ := by
  have hpath : Path.ofText "a.ts" = ⟨"", ["a.ts"]⟩ :=
    Path.ofText_of_name (by decide) (by decide) (by decide)
  have hname : limits.checkName (Path.name ⟨"", ["a.ts"]⟩) = .ok () := by decide +kernel
  rw [hpath]
  exact .read hname rfl rfl rfl

theorem status_tells_of_report_folder :
    ∃ outcome after,
      (storeWorld .empty fun _ _ => treeWithOddTexts).Quiet
        ∧ Invocation.read (inspectLine "a.ts" none) = .ok ⟨false, .inspect "a.ts" none true⟩
        ∧ Invocation.read (renderLine "a.ts" none) = .ok ⟨false, .render "a.ts" none .json none⟩
        ∧ (run (storeWorld .empty fun _ _ => treeWithOddTexts) (inspectLine "a.ts" none)).run
            folderNamedLikeSource = (outcome, after)
        ∧ outcome.ending = .ok .error ∧ Tells .error none ∧ outcome.output = ""
        ∧ after = folderNamedLikeSource
        ∧ outcome.ending = ((run (storeWorld .empty fun _ _ => treeWithOddTexts)
            (renderLine "a.ts" none)).run folderNamedLikeSource).1.ending := by
  have quiet := quiet_storeWorld .empty fun _ _ => treeWithOddTexts
  have hfails := lookFails_folderNamedLikeSource .empty fun _ _ => treeWithOddTexts
  have refusal := hfails.reportOn_eq (by decide) none
  obtain ⟨tells, same, read⟩ := status_tells_of_report _ quiet folderNamedLikeSource
  obtain ⟨hlooking, hexporting⟩ := read "a.ts" none (by decide)
  have hnone := World.report?_of_refused (c := .inspect "a.ts" none true) rfl refusal
  obtain ⟨hstatus, hsilent⟩ := tells _ _ _ _ hlooking (fun _ => Command.noConfusion) rfl
  -- The status is that of the refusal; the theorem says what it tells.
  obtain ⟨log, houtcome, -⟩ := (quiet.ends_run hlooking rfl).eq_refuse rfl refusal
  have hending := congrArg Outcome.ending houtcome
  obtain ⟨houtput, hafter, -⟩ := hsilent hnone
  exact ⟨_, _, quiet, hlooking, hexporting, rfl, hending, hnone ▸ hstatus _ hending, houtput, hafter,
    (same _ _ _ _ _ _ hlooking hexporting).1⟩

end CodeSmell.CommandLine
