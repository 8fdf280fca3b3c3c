/-
Failures of the machine.

The machine may fail the tool when it looks at a source and when it saves a report.
Main statement: the first is reported and ends in the status of an error, and the second
is not, so that a failure of the machine leaves the tool without a status exactly where
there is a report and it cannot be saved.
-/
import CodeSmell.Proofs.CommandLine.Ending
import CodeSmell.Proofs.Text.Encoding

set_option autoImplicit false

namespace CodeSmell.CommandLine

variable {σ : Type}

/-! ## Where the machine fails -/

namespace World

/-- The machine fails at saving a text: at the folders, or behind them at the file. -/
inductive SaveFails (w : World (StateM σ)) (s : σ) (path : Path) (text : String)
    (error : FileError) : Prop
  | folder {after : σ} (failure : (w.disk.makeFolder path.parent).run s = (.error error, after))
  | file {between after : σ} (made : (w.disk.makeFolder path.parent).run s = (.ok (), between))
      (failure : (w.disk.write path text.toUTF8).run between = (.error error, after))

variable {w : World (StateM σ)} {s : σ}

/-- A text is not saved exactly where the machine fails. -/
theorem saveFails_iff {path : Path} {text : String} {error : FileError} :
    w.SaveFails s path text error ↔ ((save w path text).run s).1 = .error error := by
  unfold save
  rw [StateT.run_bind]
  obtain ⟨made, between, hmade⟩ : ∃ made between,
    (w.disk.makeFolder path.parent).run s = (made, between) := ⟨_, _, rfl⟩
  rw [hmade]
  constructor
  · intro h
    cases h with
    | folder failure =>
      cases hmade.symm.trans failure
      rfl
    | file made failure =>
      cases hmade.symm.trans made
      exact congrArg Prod.fst failure
  · intro h
    cases made with
    | error e =>
      cases h
      exact .folder hmade
    | ok => exact .file hmade (Prod.ext_iff.mpr ⟨h, rfl⟩)

/-! ## How the tool ends then -/

/-- Only a failure of an operation on a path ends the tool without a status. -/
theorem Ends.exists_file_of_escape {c : Command} {outcome : Outcome} {after : σ}
    (ends : w.Ends s c outcome after) {escape : Escape} (h : outcome.ending = .error escape) :
    ∃ error, escape = .file error := by
  cases ends with
  | idle | listed | inspected | rendered | saved => cases h
  | refused source refusal log =>
    rcases refuse_ending_of_refused refusal log with hstatus | ⟨e, -, -, hescape⟩
    · cases h.symm.trans hstatus
    · cases h.symm.trans hescape
      exact ⟨e, rfl⟩
  | unsaved =>
    cases h
    exact ⟨_, rfl⟩

/-- What ends the tool without a status is a report that is not saved, or a path that no
machine was asked about. -/
theorem Ends.escapes_iff {c : Command} {outcome : Outcome} {after : σ}
    (ends : w.Ends s c outcome after) {error : FileError} (hzero : error.fault ≠ .zeroInPath) :
    outcome.ending = .error (.file error)
      ↔ ∃ target filename format path report,
          c = .render target filename format (some path)
            ∧ w.reportOn s target filename = .ok report
            ∧ w.SaveFails s path (report.exportAs format) error := by
  constructor
  · intro hending
    cases ends with
    | idle | listed | inspected | rendered | saved => cases hending
    | refused source refusal log =>
      rcases refuse_ending_of_refused refusal log with hstatus | ⟨e, -, hfault, hescape⟩
      · cases hending.symm.trans hstatus
      · cases hending.symm.trans hescape
        exact absurd hfault hzero
    | unsaved found failure =>
      cases hending
      exact ⟨_, _, _, _, _, rfl, found, saveFails_iff.mpr (congrArg Prod.fst failure)⟩
  · rintro ⟨target, filename, format, path, report, rfl, hfound, hfails⟩
    have hsave := saveFails_iff.mp hfails
    cases ends with
    | refused source refusal =>
      cases source
      cases hfound.symm.trans refusal
    | saved found success =>
      cases hfound.symm.trans found
      rw [success] at hsave
      cases hsave
    | unsaved found failure =>
      cases hfound.symm.trans found
      rw [failure] at hsave
      cases hsave
      rfl

/-- A source that the machine does not give ends the tool with the status of an error. -/
theorem Ends.of_unreadable {c : Command} {outcome : Outcome} {after : σ}
    (ends : w.Ends s c outcome after) {target : String} {filename : Option String}
    (source : c.source? = some (target, filename)) {error : FileError}
    (refusal : w.reportOn s target filename = .error (.source (.unreadable error)))
    (hzero : error.fault ≠ .zeroInPath) :
    outcome.ending = .ok .error ∧ outcome.output = "" ∧ after = s := by
  obtain ⟨log, rfl, rfl⟩ := ends.eq_refuse source refusal
  refine ⟨?_, refuse_output _ _ _ _, rfl⟩
  rcases refuse_ending_of_refused refusal log with hstatus | ⟨e, heq, hfault, -⟩
  · exact hstatus
  · cases heq
    exact absurd hfault hzero

end World

/-- **Failures of the machine and the status.** Take any command line that is read, and any
state of the files and the standard input, where looking at them changes nothing. Only the
failure of an operation on a path leaves the tool without a status. Save for a path that
no machine can be asked about, it does so exactly where a report is to be saved, there is
a report, and the failure is met at the folders of the file or at the file. A failure at
looking at a source, in a file or on the standard input, ends in the status of an error,
with nothing put out and nothing changed. -/
theorem escapes_only_from_saving (w : World (StateM σ)) (quiet : w.Quiet) (s : σ)
    {arguments : List String} {i : Invocation} (hread : Invocation.read arguments = .ok i)
    {outcome : Outcome} {after : σ} (hrun : (run w arguments).run s = (outcome, after)) :
    (∀ escape, outcome.ending = .error escape → ∃ error, escape = .file error)
      ∧ (∀ error : FileError, error.fault ≠ .zeroInPath →
          (outcome.ending = .error (.file error)
            ↔ ∃ target filename format path report,
                i.command = .render target filename format (some path)
                  ∧ w.reportOn s target filename = .ok report
                  ∧ w.SaveFails s path (report.exportAs format) error))
      ∧ (∀ target filename error, i.command.source? = some (target, filename) → target ≠ "-" →
          w.LookFails s (Path.ofText target) error → error.fault ≠ .zeroInPath →
          outcome.ending = .ok .error ∧ outcome.output = "" ∧ after = s)
      ∧ ∀ filename error, i.command.source? = some ("-", filename) →
          (w.input.run s).1 = .error error → error.fault ≠ .zeroInPath →
          outcome.ending = .ok .error ∧ outcome.output = "" ∧ after = s := by
  have ends := quiet.ends_run hread hrun
  refine ⟨fun escape => ends.exists_file_of_escape, fun error => ends.escapes_iff, ?_, ?_⟩
  · intro target filename error source hfile hfails hzero
    exact ends.of_unreadable source (hfails.reportOn_eq hfile filename) hzero
  · intro filename error source hfails hzero
    exact ends.of_unreadable source (World.reportOn_of_input_error hfails filename) hzero

/-! ## A report that cannot be saved -/

/-- A report is to be saved where a folder stands. -/
def lineToFolder : List String := ["export", "a.ts", "--output", "out"]

/-- A source, and the folder. -/
def sourceAndFolder : FileStore := [(["a.ts"], .file "let x: any;\n".toUTF8), (["out"], .folder)]

theorem read_lineToFolder :
    Invocation.read lineToFolder
      = .ok ⟨false, .render "a.ts" none .markdown (some (Path.ofText "out"))⟩ := by
  have hsort : sortAll renderInterface.flags ["a.ts", "--output", "out"]
      = .ok [("a.ts", .operand), ("--output", .option outputFlag "--output" none),
          ("out", .operand)] := rfl
  have hcommand : readCommand "export" ["a.ts", "--output", "out"] {}
      = .ok ({ target := "a.ts", output := some (Path.ofText "out"), command := some "export" },
          []) := by
    refine renderInterface.read_eq hsort ?_
    rw [renderInterface, targetOperand, Interface.readParts_single]
    refine (Interface.readParts_next _ (f := outputFlag) rfl (by decide) _ _ _ _).trans ?_
    rw [Interface.readParts]
  have hbefore : sortAll commandInterface.flags ["a.ts", "--output", "out"]
      = .ok [("a.ts", .operand), ("--output", .stranger), ("out", .operand)] := rfl
  exact read_export ⟨_, hbefore, rfl⟩ hcommand

theorem saveFails_sourceAndFolder (input : ByteArray) (parser : SourceParser) (text : String) :
    (storeWorld input parser).SaveFails sourceAndFolder (Path.ofText "out") text
      ⟨.isFolder, Path.ofText "out"⟩ := by
  have hpath : Path.ofText "out" = ⟨"", ["out"]⟩ :=
    Path.ofText_of_name (by decide) (by decide) (by decide)
  have hmade : ((storeWorld input parser).disk.makeFolder (Path.parent ⟨"", ["out"]⟩)).run
      sourceAndFolder = (.ok (), sourceAndFolder) := rfl
  rw [hpath]
  exact .file hmade rfl

theorem fileSource_sourceAndFolder (input : ByteArray) (parser : SourceParser) :
    (storeWorld input parser).fileSource sourceAndFolder (Path.ofText "a.ts")
      = .ok "let x: any;\n" := by
  have hpath : Path.ofText "a.ts" = ⟨"", ["a.ts"]⟩ :=
    Path.ofText_of_name (by decide) (by decide) (by decide)
  have hsize : (storeWorld input parser).fileSize sourceAndFolder ⟨"", ["a.ts"]⟩
      = .ok "let x: any;\n".toUTF8.size := by
    have hname : limits.checkName (Path.name ⟨"", ["a.ts"]⟩) = .ok () := by decide +kernel
    rw [World.fileSize, hname]
    rfl
  have htext : (storeWorld input parser).fileText sourceAndFolder ⟨"", ["a.ts"]⟩
      = .ok "let x: any;\n" := by
    have hbytes : Encoding.text "utf-8" "let x: any;\n".toUTF8.toList = .ok "let x: any;\n" :=
      Encoding.text_encode (by decide)
    exact congrArg (Except.mapError SourceError.undecodable) hbytes
  rw [hpath, World.fileSource, hsize]
  exact htext

theorem exists_reportOn_sourceAndFolder (input : ByteArray) :
    ∃ report, (storeWorld input fun _ _ => treeWithOddTexts).reportOn sourceAndFolder "a.ts" none
      = .ok report := by
  have rows : ∀ n ∈ treeWithOddTexts.preorder, 0 ≤ n.start.row := by decide
  obtain ⟨report, hreport⟩ := exists_analyze_eq_ok (fun _ _ => treeWithOddTexts) "let x: any;\n"
    (some (Path.ofText "a.ts").name) rfl rows .standard
  refine ⟨report, ?_⟩
  rw [World.reportOn, if_neg (by decide), fileSource_sourceAndFolder]
  exact congrArg (Except.mapError Refusal.analysis) hreport

/-- Described files, and a standard input that the machine fails at. -/
def brokenInput : World (StateM FileStore) :=
  { storeWorld .empty fun _ _ => treeWithOddTexts with
    input := pure (.error ⟨.other 5 "Input/output error", none⟩) }

theorem quiet_brokenInput : brokenInput.Quiet :=
  ⟨fun _ _ => rfl, fun _ _ => rfl, fun _ => rfl⟩

theorem escapes_only_from_saving_folder :
    (storeWorld .empty fun _ _ => treeWithOddTexts).Quiet
      ∧ ((run (storeWorld .empty fun _ _ => treeWithOddTexts) lineToFolder).run
          sourceAndFolder).1.ending
        = .error (.file ⟨.isFolder, Path.ofText "out"⟩)
      ∧ ((run (storeWorld .empty fun _ _ => treeWithOddTexts) (inspectLine "a.ts" none)).run
          folderNamedLikeSource).1.ending
        = .ok .error
      ∧ brokenInput.Quiet
      ∧ ((run brokenInput (inspectLine "-" none)).run []).1.ending = .ok .error := by
  have quiet := quiet_storeWorld .empty fun _ _ => treeWithOddTexts
  refine ⟨quiet, ?_, ?_, quiet_brokenInput, ?_⟩
  · obtain ⟨report, hreport⟩ := exists_reportOn_sourceAndFolder .empty
    have hfails := saveFails_sourceAndFolder .empty (fun _ _ => treeWithOddTexts)
      (report.exportAs .markdown)
    obtain ⟨-, hescape, -⟩ := escapes_only_from_saving _ quiet sourceAndFolder read_lineToFolder rfl
    exact (hescape _ (by decide)).mpr ⟨_, _, _, _, _, rfl, hreport, hfails⟩
  · have hlooking : Invocation.read (inspectLine "a.ts" none)
        = .ok ⟨false, .inspect "a.ts" none true⟩ := read_inspectLine (by decide) none
    have hfails := lookFails_folderNamedLikeSource .empty fun _ _ => treeWithOddTexts
    obtain ⟨-, -, hlook, -⟩ := escapes_only_from_saving _ quiet folderNamedLikeSource hlooking rfl
    exact (hlook _ _ _ rfl (by decide) hfails (by decide)).1
  · have hpiping : Invocation.read (inspectLine "-" none) = .ok ⟨false, .inspect "-" none true⟩ :=
      read_inspectLine (by decide) none
    obtain ⟨-, -, -, hinput⟩ := escapes_only_from_saving _ quiet_brokenInput [] hpiping rfl
    exact (hinput none _ rfl rfl (by decide)).1

end CodeSmell.CommandLine
