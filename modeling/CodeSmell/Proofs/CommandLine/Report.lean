/-
When the tool has a report.

On its way to a report the tool asks the machine for the size of a file, for the bytes in
it and for the standard input. Where asking changes nothing, what it comes to is a plain
function of how things stand. `World.reportOn` is this function: it has the checks in
their order, and there is no report exactly where one of them fails. Main statement:
the tool comes to this report, or fails as it does, and leaves everything as it was.
Where it fails, a line on the error output says why, and that is all.
-/
import CodeSmell.CommandLine.Run
import CodeSmell.Proofs.Analysis.Conformance

set_option autoImplicit false

namespace CodeSmell.CommandLine

variable {σ : Type}

/-! ## Steps that change nothing -/

section

variable {ε α β : Type} {s : σ}

/-- A step that may fail, behind one that may. -/
theorem run_bind {x : ExceptT ε (StateM σ) α} {outcome : Except ε α}
    {f : α → ExceptT ε (StateM σ) β} {g : α → Except ε β} (hx : x.run.run s = (outcome, s))
    (hf : ∀ a, (f a).run.run s = (g a, s)) : (x >>= f).run.run s = (outcome >>= g, s) := by
  rw [ExceptT.run_bind, StateT.run_bind, hx]
  cases outcome with
  | error e => rfl
  | ok a => exact hf a

/-- A step behind one that changes nothing. -/
theorem run_bind_of_still {x : StateM σ α} {a : α} (hx : x.run s = (a, s))
    (f : α → StateM σ β) : (x >>= f).run s = (f a).run s := by
  rw [StateT.run_bind, hx]
  rfl

/-- A step that may fail, behind one that may not and changes nothing. -/
theorem run_liftM_bind {x : StateM σ α} {a : α} (hx : x.run s = (a, s))
    (f : α → ExceptT ε (StateM σ) β) :
    ((liftM x : ExceptT ε (StateM σ) α) >>= f).run.run s = (f a).run.run s := by
  rw [ExceptT.run_bind, ExceptT.run_liftM, bind_map_left]
  exact run_bind_of_still hx fun a => (f a).run

end

/-! ## What the machine holds -/

/-- The source in the bytes of the standard input, if it is not refused. -/
def inputSource (bytes : ByteArray) (filename : Option String) : Except SourceError String := do
  let source ← (Encoding.text "utf-8" bytes.toList).mapError .undecodable
  (limits.checkText source filename).mapError .refused
  return source

/-- The report on a source, under a name. -/
def reportOf (parser : SourceParser) (filename : Option String)
    (source : Except SourceError String) : Except Refusal Report := do
  let source ← source.mapError .source
  (analyze parser source filename Catalogue.standard).mapError .analysis

namespace World

variable (w : World (StateM σ)) (s : σ)

/-- The size of a file that is not refused by its name or its size. -/
def fileSize (path : Path) : Except SourceError Nat := do
  (limits.checkName path.name).mapError .refused
  let size ← ((w.disk.size path).run s).1.mapError .unreadable
  (limits.checkSize size).mapError .refused
  return size

/-- The text of a file. -/
def fileText (path : Path) : Except SourceError String := do
  let bytes ← ((w.disk.read path).run s).1.mapError .unreadable
  (Encoding.text limits.encoding bytes.toList).mapError .undecodable

/-- The source in a file, if it is not refused. -/
def fileSource (path : Path) : Except SourceError String := do
  let _ ← w.fileSize s path
  w.fileText s path

/-- The source on the standard input, if it is not refused. -/
def pipedSource (filename : Option String) : Except SourceError String := do
  let bytes ← (w.input.run s).1.mapError .unreadable
  inputSource bytes filename

/-- The report on a target: a file, or the standard input where it is a hyphen. A name that
is given counts for the standard input only. -/
def reportOn (target : String) (filename : Option String) : Except Refusal Report :=
  if target = "-" then reportOf w.parser filename (w.pipedSource s filename)
  else reportOf w.parser (some (Path.ofText target).name) (w.fileSource s (Path.ofText target))

/-- Asking changes nothing. -/
structure Quiet : Prop where
  size : ∀ path s, ((w.disk.size path).run s).2 = s
  read : ∀ path s, ((w.disk.read path).run s).2 = s
  input : ∀ s, (w.input.run s).2 = s

/-- The machine fails at looking at a file that is not refused: at its size, or at its
bytes. -/
inductive LookFails (w : World (StateM σ)) (s : σ) (path : Path) (error : FileError) : Prop
  | size (name : limits.checkName path.name = .ok ())
      (failure : ((w.disk.size path).run s).1 = .error error)
  | read {size : Nat} (name : limits.checkName path.name = .ok ())
      (sized : ((w.disk.size path).run s).1 = .ok size) (fits : limits.checkSize size = .ok ())
      (failure : ((w.disk.read path).run s).1 = .error error)

end World

/-- Described files, with bytes that wait on the standard input. -/
def storeWorld (input : ByteArray) (parser : SourceParser) : World (StateM FileStore) :=
  ⟨FileStore.disk, pure (.ok input), parser⟩

theorem quiet_storeWorld (input : ByteArray) (parser : SourceParser) :
    (storeWorld input parser).Quiet :=
  ⟨fun _ _ => rfl, fun _ _ => rfl, fun _ => rfl⟩

theorem World.pipedSource_of_ok {w : World (StateM σ)} {s : σ} {bytes : ByteArray}
    (h : (w.input.run s).1 = .ok bytes) (filename : Option String) :
    w.pipedSource s filename = inputSource bytes filename := by
  rw [pipedSource, h]
  rfl

/-! ## What the tool comes to -/

theorem attemptInput_result (parser : SourceParser) (bytes : ByteArray)
    (filename : Option String) :
    (attemptInput parser bytes filename).result
      = reportOf parser filename (inputSource bytes filename) := by
  unfold attemptInput inputSource
  cases Encoding.text "utf-8" bytes.toList with
  | error e => rfl
  | ok source =>
    simp only [attemptGiven, Except.mapError, bind, Except.bind]
    cases limits.checkText source filename with
    | error e => rfl
    | ok => rfl

namespace World.Quiet

variable {w : World (StateM σ)} (quiet : w.Quiet) (s : σ)

include quiet

theorem run_size (path : Path) :
    (w.disk.size path).run s = (((w.disk.size path).run s).1, s) :=
  Prod.ext_iff.mpr ⟨rfl, quiet.size path s⟩

theorem run_read (path : Path) :
    (w.disk.read path).run s = (((w.disk.read path).run s).1, s) :=
  Prod.ext_iff.mpr ⟨rfl, quiet.read path s⟩

theorem run_input : w.input.run s = ((w.input.run s).1, s) :=
  Prod.ext_iff.mpr ⟨rfl, quiet.input s⟩

theorem run_acceptedSize (path : Path) :
    (w.disk.acceptedSize limits path).run.run s = (w.fileSize s path, s) := by
  -- The name is checked before the machine is asked, and the size after.
  refine run_bind rfl fun _ => ?_
  rw [run_liftM_bind (quiet.run_size s path)]
  refine run_bind rfl fun _ => ?_
  exact run_bind rfl fun _ => rfl

theorem run_text (path : Path) :
    (w.disk.text limits.encoding path).run.run s = (w.fileText s path, s) := by
  unfold Disk.text
  rw [run_liftM_bind (quiet.run_read s path)]
  exact run_bind rfl fun _ => rfl

theorem run_attemptFile (path : Path) :
    ∃ events, (attemptFile w path).run s
      = (⟨events, reportOf w.parser (some path.name) (w.fileSource s path)⟩, s) := by
  have hsize := quiet.run_acceptedSize s path
  have htext := quiet.run_text s path
  unfold attemptFile World.fileSource
  -- What was logged depends on where the file fails, and only that differs between the cases.
  rw [run_bind_of_still hsize]
  cases w.fileSize s path with
  | error e => exact ⟨_, rfl⟩
  | ok size =>
    dsimp only
    rw [run_bind_of_still htext]
    cases hsource : w.fileText s path with
    | error e => exact ⟨_, rfl⟩
    | ok source => exact ⟨_, rfl⟩

/-- The tool comes to the report on its target, or fails as it does, and leaves everything
as it was. -/
theorem run_attempt (target : String) (filename : Option String) :
    ∃ events, (attempt w target filename).run s
      = (⟨events, w.reportOn s target filename⟩, s) := by
  unfold attempt World.reportOn
  split
  · rw [run_bind_of_still (quiet.run_input s)]
    cases hinput : (w.input.run s).1 with
    | error e =>
      rw [pipedSource, hinput]
      exact ⟨[], rfl⟩
    | ok bytes =>
      rw [pipedSource_of_ok hinput, ← attemptInput_result]
      exact ⟨_, rfl⟩
  · exact quiet.run_attemptFile s (Path.ofText target)

end World.Quiet

/-! ## What the tool does where there is no report -/

namespace World.LookFails

variable {w : World (StateM σ)} {s : σ} {error : FileError}

theorem fileSource_eq {path : Path}
    (h : w.LookFails s path error) : w.fileSource s path = .error (.unreadable error) := by
  cases h with
  | size name failure =>
    rw [fileSource, fileSize, name, failure]
    rfl
  | read name sized fits failure =>
    rw [fileSource, fileSize, name, sized, fileText, failure]
    simp only [Except.mapError, bind, Except.bind, fits]
    rfl

theorem reportOn_eq {target : String} (hfile : target ≠ "-")
    (h : w.LookFails s (Path.ofText target) error) (filename : Option String) :
    w.reportOn s target filename = .error (.source (.unreadable error)) := by
  rw [reportOn, if_neg hfile, h.fileSource_eq]
  rfl

end World.LookFails

/-- A standard input that cannot be read has no report. -/
theorem World.reportOn_of_input_error {w : World (StateM σ)} {s : σ} {error : FileError}
    (h : (w.input.run s).1 = .error error) (filename : Option String) :
    w.reportOn s "-" filename = .error (.source (.unreadable error)) := by
  rw [reportOn, if_pos rfl, pipedSource, h]
  rfl

theorem reportOf_ne_description (parser : SourceParser) (filename : Option String)
    (source : Except SourceError String) (e : TemplateError) :
    reportOf parser filename source ≠ .error (.analysis (.description e)) := by
  intro h
  cases source with
  | error error => cases h
  | ok source =>
    simp only [reportOf, Except.mapError, bind, Except.bind] at h
    cases hanalyze : analyze parser source filename Catalogue.standard with
    | ok report =>
      rw [hanalyze] at h
      cases h
    | error error =>
      obtain ⟨failure, rfl⟩ := exists_unparsable_of_analyze_eq_error hanalyze
      rw [hanalyze] at h
      cases h

/-- With the built-in rules every description is filled in. -/
theorem World.reportOn_ne_description (w : World (StateM σ)) (s : σ) (target : String)
    (filename : Option String) (e : TemplateError) :
    w.reportOn s target filename ≠ .error (.analysis (.description e)) := by
  unfold World.reportOn
  split
  · exact reportOf_ne_description w.parser filename _ e
  · exact reportOf_ne_description w.parser _ _ e

/-- A refusal ends in the status of an error, unless it is a path that no machine was asked
about. -/
theorem refuse_ending {r : Refusal} (hfilled : ∀ e, r ≠ .analysis (.description e))
    (log target : String) (filename : Option String) :
    (refuse log target filename r).ending = .ok .error
      ∨ ∃ e, r = .source (.unreadable e) ∧ e.fault = .zeroInPath
        ∧ (refuse log target filename r).ending = .error (.file e) := by
  match r with
  | .analysis (.unparsable failure) => exact .inl rfl
  | .analysis (.description e) => exact absurd rfl (hfilled e)
  | .source (.refused e) => exact .inl rfl
  | .source (.undecodable e) => exact .inl rfl
  | .source (.unreadable e) =>
    by_cases hzero : e.fault = .zeroInPath
    · refine .inr ⟨e, rfl, hzero, ?_⟩
      rw [refuse, refusalLine, if_pos hzero]
    · left
      rw [refuse, refusalLine, if_neg hzero]

/-- What was logged, and what the source is called, does not matter to the ending. -/
theorem refuse_ending_eq (log log' target target' : String) (filename filename' : Option String)
    (r : Refusal) :
    (refuse log target filename r).ending = (refuse log' target' filename' r).ending := by
  match r with
  | .analysis (.unparsable failure) => rfl
  | .analysis (.description e) => rfl
  | .source (.refused e) => rfl
  | .source (.undecodable e) => rfl
  | .source (.unreadable e) =>
    by_cases hzero : e.fault = .zeroInPath
    · rw [refuse, refuse, refusalLine, refusalLine, if_pos hzero, if_pos hzero]
    · rw [refuse, refuse, refusalLine, refusalLine, if_neg hzero, if_neg hzero]

theorem refuse_output (log target : String) (filename : Option String) (r : Refusal) :
    (refuse log target filename r).output = "" := by
  unfold refuse
  split <;> rfl

end CodeSmell.CommandLine
