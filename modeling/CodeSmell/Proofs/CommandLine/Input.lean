/-
The same bytes in a file and as standard input.

A file is refused by its size before it is opened, and the standard input by the size of
its text, in which every line end is one character. Main statement: bytes that are given in
both ways end the tool alike and put out the same, but for bytes above the limit whose
text is within it. There the file is refused and the standard input is analysed, which
takes carriage returns before line feeds.

Where the bytes are within the limit both ways come to one source, errors included. Above
it a file has no source, and what is left is that each error of the other way ends the
tool like the refusal of the file.
-/
import CodeSmell.Proofs.CommandLine.Ending
import CodeSmell.Proofs.Intake.Limits
import CodeSmell.Proofs.Text.Decoding

set_option autoImplicit false

namespace CodeSmell.CommandLine

variable {σ τ : Type}

/-! ## Sources -/

/-- The bytes are above the limit, and their text is within it. -/
structure OnlyTextFits (bytes : ByteArray) (source : String) : Prop where
  large : limits.maxBytes < bytes.size
  text : Encoding.text limits.encoding bytes.toList = .ok source
  fits : (source.utf8ByteSize : Int) ≤ limits.maxBytes

/-- A file with these bytes stands at a path. -/
structure World.HasFile (w : World (StateM σ)) (s : σ) (path : Path) (bytes : ByteArray) :
    Prop where
  size : ((w.disk.size path).run s).1 = .ok bytes.size
  read : ((w.disk.read path).run s).1 = .ok bytes

section

variable {bytes : ByteArray} {name source : String}

/-- Only line ends of two characters make a text fit. -/
theorem OnlyTextFits.has_lineEnd (h : OnlyTextFits bytes source) : [0x0D, 0x0A] <:+: bytes.toList := by
  have hlarge := h.large
  have hfits := h.fits
  refine Encoding.infix_of_text_lt h.text ?_
  rw [Text.Utf8.length_toList]
  omega

theorem fileSource_of_le {w : World (StateM σ)} {s : σ} {path : Path}
    (hname : limits.checkName path.name = .ok ()) (hfile : w.HasFile s path bytes)
    (hle : (bytes.size : Int) ≤ limits.maxBytes) :
    w.fileSource s path
      = (Encoding.text limits.encoding bytes.toList).mapError SourceError.undecodable := by
  rw [World.fileSource, World.fileSize, World.fileText, hname, hfile.size, hfile.read]
  simp only [Except.mapError, bind, Except.bind, IntakeLimits.checkSize_of_le hle]
  rfl

theorem fileSource_of_lt {w : World (StateM σ)} {s : σ} {path : Path}
    (hname : limits.checkName path.name = .ok ()) (hfile : w.HasFile s path bytes)
    (hlt : limits.maxBytes < bytes.size) :
    w.fileSource s path = .error (.refused (.tooLarge bytes.size limits.maxBytes)) := by
  rw [World.fileSource, World.fileSize, hname, hfile.size]
  simp only [Except.mapError, bind, Except.bind, IntakeLimits.checkSize_of_lt hlt]

theorem inputSource_of_error {e : DecodeError} (htext : Encoding.text "utf-8" bytes.toList = .error e)
    (filename : Option String) : inputSource bytes filename = .error (.undecodable e) := by
  rw [inputSource, htext]
  rfl

theorem inputSource_of_ok (hname : limits.checkName name = .ok ())
    (htext : Encoding.text "utf-8" bytes.toList = .ok source) :
    inputSource bytes (some name)
      = ((limits.checkSize source.utf8ByteSize).mapError SourceError.refused).map fun _ => source := by
  rw [inputSource, htext]
  simp only [Except.mapError, bind, Except.bind, IntakeLimits.checkText_of_checkName hname]
  cases limits.checkSize source.utf8ByteSize with
  | error e => rfl
  | ok => rfl

/-- Within the limit, a file and the standard input come to the same source. -/
theorem fileSource_eq_inputSource {w : World (StateM σ)} {s : σ} {path : Path}
    (hname : limits.checkName path.name = .ok ()) (hfile : w.HasFile s path bytes)
    (hle : (bytes.size : Int) ≤ limits.maxBytes) :
    w.fileSource s path = inputSource bytes (some path.name) := by
  rw [fileSource_of_le hname hfile hle]
  cases htext : Encoding.text "utf-8" bytes.toList with
  | error e =>
    rw [inputSource_of_error htext, limits, htext]
    rfl
  | ok source =>
    -- A text is no longer than its bytes, so it is within the limit too.
    have hlength := Encoding.utf8ByteSize_le_of_text htext
    rw [Text.Utf8.length_toList] at hlength
    have hfits : (source.utf8ByteSize : Int) ≤ limits.maxBytes := by omega
    rw [inputSource_of_ok hname htext, IntakeLimits.checkSize_of_le hfits, limits, htext]
    rfl

/-- Above the limit, the standard input has a source only if its text fits. -/
theorem inputSource_of_lt (hname : limits.checkName name = .ok ())
    (hlt : limits.maxBytes < bytes.size) (hnone : ∀ source, ¬OnlyTextFits bytes source) :
    ∃ e, inputSource bytes (some name) = .error e ∧ ∀ error, e ≠ .unreadable error := by
  cases htext : Encoding.text "utf-8" bytes.toList with
  | error e =>
    exact ⟨.undecodable e, inputSource_of_error htext _, fun _ => SourceError.noConfusion⟩
  | ok source =>
    have hlarge : limits.maxBytes < (source.utf8ByteSize : Int) :=
      Int.not_le.mp fun hfits => hnone source ⟨hlt, htext, hfits⟩
    refine ⟨.refused (.tooLarge source.utf8ByteSize limits.maxBytes), ?_,
      fun _ => SourceError.noConfusion⟩
    rw [inputSource_of_ok hname htext, IntakeLimits.checkSize_of_lt hlarge]
    rfl

theorem OnlyTextFits.inputSource_eq (h : OnlyTextFits bytes source)
    (hname : limits.checkName name = .ok ()) : inputSource bytes (some name) = .ok source := by
  rw [inputSource_of_ok hname h.text, IntakeLimits.checkSize_of_le h.fits]
  rfl

end

/-! ## Endings -/

namespace World.Ends

variable {w : World (StateM σ)} {s : σ} {target : String} {filename : Option String} {json : Bool}
  {outcome : Outcome} {after : σ}

/-- A report that is looked for and found is put out. -/
theorem inspect_found (ends : w.Ends s (.inspect target filename true) outcome after)
    {report : Report} (found : w.reportOn s target filename = .ok report) :
    outcome.ending = .ok (statusOf report)
      ∧ outcome.output = report.exportJson Json.reportIndent := by
  cases ends with
  | refused source refusal =>
    cases source
    cases found.symm.trans refusal
  | inspected found' =>
    cases found.symm.trans found'
    exact ⟨rfl, rfl⟩

/-- Where the machine was able to read the source, a refusal ends in the status of an
error. -/
theorem inspect_refused (ends : w.Ends s (.inspect target filename json) outcome after)
    {r : Refusal} (refusal : w.reportOn s target filename = .error r)
    (hread : ∀ e, r ≠ .source (.unreadable e)) :
    outcome.ending = .ok .error ∧ outcome.output = "" := by
  obtain ⟨log, rfl, -⟩ := ends.eq_refuse rfl refusal
  refine ⟨?_, refuse_output log target filename r⟩
  rcases refuse_ending_of_refused refusal log with hending | ⟨e, heq, -, -⟩
  · exact hending
  · exact absurd heq (hread e)

/-- Two targets with the same report, or the same refusal, end the tool alike. -/
theorem inspect_congr {v : World (StateM τ)} {t after' : τ} {target' : String}
    {filename' : Option String} {outcome' : Outcome}
    (ends : w.Ends s (.inspect target filename true) outcome after)
    (ends' : v.Ends t (.inspect target' filename' true) outcome' after')
    (hreport : w.reportOn s target filename = v.reportOn t target' filename') :
    outcome.ending = outcome'.ending ∧ outcome.output = outcome'.output := by
  cases hfound : w.reportOn s target filename with
  | error r =>
    obtain ⟨log, rfl, -⟩ := ends.eq_refuse rfl hfound
    obtain ⟨log', rfl, -⟩ := ends'.eq_refuse rfl (hreport.symm.trans hfound)
    exact ⟨refuse_ending_eq .., by rw [refuse_output, refuse_output]⟩
  | ok report =>
    obtain ⟨hending, houtput⟩ := ends.inspect_found hfound
    obtain ⟨hending', houtput'⟩ := ends'.inspect_found (hreport.symm.trans hfound)
    exact ⟨hending.trans hending'.symm, houtput.trans houtput'.symm⟩

end World.Ends

/-! ## Reports under the name of a source -/

/-- The name ends like that of a source. -/
def IsSourceName (name : String) : Prop :=
  ".ts".toList <:+ name.toList ∨ ".tsx".toList <:+ name.toList

instance (name : String) : Decidable (IsSourceName name) := inferInstanceAs (Decidable (_ ∨ _))

namespace IsSourceName

variable {name : String} (h : IsSourceName name)

include h

theorem checkName : limits.checkName name = .ok () := by
  rcases h with hts | htsx
  · exact IntakeLimits.checkName_of_suffix (by decide) (by simp) hts
  · exact IntakeLimits.checkName_of_suffix (by decide) (by simp) htsx

theorem ne_of_not {other : String} (hother : ¬IsSourceName other) : name ≠ other := by
  rintro rfl
  exact hother h

theorem ne_empty : name ≠ "" := h.ne_of_not (by decide)

theorem ne_point : name ≠ "." := h.ne_of_not (by decide)

theorem ne_hyphen : name ≠ "-" := h.ne_of_not (by decide)

/-- Without a hyphen in front it is taken for a source on the command line. -/
theorem namesSource (hhead : name.toList.head? ≠ some '-') :
    namesSource [name] = true := by
  have hexport : name ≠ "export" := h.ne_of_not (by decide)
  have hrules : name ≠ "rules" := h.ne_of_not (by decide)
  rw [CommandLine.namesSource, firstOperand?, List.find?_cons_of_pos (by simpa using .inl hhead)]
  simp [commandNames, h.ne_empty, hexport, hrules]

end IsSourceName

namespace World

variable {w : World (StateM σ)} {s : σ} {v : World (StateM τ)} {t : τ} {target name : String}
  {bytes : ByteArray} (hname : (Path.ofText target).name = name) (hsource : IsSourceName name)

include hname hsource

theorem reportOn_file (filename : Option String) :
    w.reportOn s target filename
      = reportOf w.parser (some name) (w.fileSource s (Path.ofText target)) := by
  have hfile : target ≠ "-" := by
    rintro rfl
    have hhyphen : (Path.ofText "-").name = "-" :=
      Path.name_ofText_of_name (by decide) (by decide) (by decide)
    exact hsource.ne_hyphen (hname.symm.trans hhyphen)
  rw [reportOn, if_neg hfile, hname]

/-- Above the limit there is no report on a file. -/
theorem reportOn_file_of_lt (hfile : w.HasFile s (Path.ofText target) bytes)
    (hlt : limits.maxBytes < bytes.size) (filename : Option String) :
    w.reportOn s target filename
      = .error (.source (.refused (.tooLarge bytes.size limits.maxBytes))) := by
  have hcheck : limits.checkName (Path.ofText target).name = .ok () := hname ▸ hsource.checkName
  rw [reportOn_file hname hsource, fileSource_of_lt hcheck hfile hlt]
  rfl

/-- Within the limit, the report on a file is that on its bytes as standard input. -/
theorem reportOn_file_of_le (hfile : w.HasFile s (Path.ofText target) bytes)
    (hinput : (v.input.run t).1 = .ok bytes) (hparser : v.parser = w.parser)
    (hle : (bytes.size : Int) ≤ limits.maxBytes) (filename : Option String) :
    w.reportOn s target filename = v.reportOn t "-" (some name) := by
  have hcheck : limits.checkName (Path.ofText target).name = .ok () := hname ▸ hsource.checkName
  rw [reportOn_file hname hsource, fileSource_eq_inputSource hcheck hfile hle, reportOn,
    if_pos rfl, pipedSource_of_ok hinput, hparser, hname]

end World

section

variable {v : World (StateM τ)} {t : τ} {name : String} {bytes : ByteArray}
  (hsource : IsSourceName name) (hinput : (v.input.run t).1 = .ok bytes)

include hsource hinput

/-- A text that fits is analysed, whatever the size of its bytes. -/
theorem OnlyTextFits.reportOn_input {source : String} (h : OnlyTextFits bytes source) :
    v.reportOn t "-" (some name)
      = (analyze v.parser source (some name) Catalogue.standard).mapError .analysis := by
  rw [World.reportOn, if_pos rfl, World.pipedSource_of_ok hinput,
    h.inputSource_eq hsource.checkName]
  rfl

/-- Above the limit there is no other report on the standard input. -/
theorem World.reportOn_input_of_lt (hlt : limits.maxBytes < bytes.size)
    (hnone : ∀ source, OnlyTextFits bytes source →
      ∀ report, analyze v.parser source (some name) Catalogue.standard ≠ .ok report) :
    ∃ r, v.reportOn t "-" (some name) = .error r ∧ ∀ error, r ≠ .source (.unreadable error) := by
  by_cases hfits : ∃ source, OnlyTextFits bytes source
  · obtain ⟨source, hfits⟩ := hfits
    have hreport := hfits.reportOn_input hsource hinput
    cases hanalyze : analyze v.parser source (some name) Catalogue.standard with
    | ok report => exact absurd hanalyze (hnone source hfits report)
    | error e =>
      rw [hanalyze] at hreport
      exact ⟨.analysis e, hreport, fun _ => nofun⟩
  · obtain ⟨e, hrefused, hread⟩ :=
      inputSource_of_lt hsource.checkName hlt (not_exists.mp hfits)
    refine ⟨.source e, ?_, fun error heq => hread error (Refusal.source.inj heq)⟩
    rw [reportOn, if_pos rfl, pipedSource_of_ok hinput, hrefused]
    rfl

end

/-! ## Bytes of line ends -/

/-- Line ends, of two bytes each. -/
def lineEnds (n : Nat) : ByteArray := ⟨(List.replicate n [0x0D, 0x0A]).flatten.toArray⟩

theorem size_lineEnds (n : Nat) : (lineEnds n).size = n * 2 := by
  rw [lineEnds, ByteArray.size, List.size_toArray, List.length_flatten, List.map_replicate,
    List.sum_replicate_nat]
  rfl

theorem toList_lineEnds (n : Nat) :
    (lineEnds n).toList
      = (List.replicate n ['\r', '\n']).flatten.flatMap String.utf8EncodeChar := by
  rw [Text.Utf8.toList_eq, lineEnds]
  induction n with
  | zero => rfl
  | succ n ih =>
    rw [List.replicate_succ, List.replicate_succ, List.flatten_cons, List.flatten_cons,
      List.flatMap_append, ← ih]
    rfl

theorem unifyLineEndsOnto_returns (acc : List Char) (n : Nat) :
    Text.unifyLineEndsOnto acc (List.replicate n ['\r', '\n']).flatten
      = acc.reverse ++ List.replicate n '\n' := by
  induction n generalizing acc with
  | zero => rw [List.replicate_zero, List.flatten_nil, Text.unifyLineEndsOnto, List.replicate_zero,
      List.append_nil]
  | succ n ih =>
    rw [List.replicate_succ, List.flatten_cons, List.cons_append, List.singleton_append,
      Text.unifyLineEndsOnto, ih, List.reverse_cons, List.append_assoc, List.singleton_append,
      ← List.replicate_succ]

theorem utf8Len_replicate (n : Nat) : String.utf8Len (List.replicate n '\n') = n := by
  induction n with
  | zero => rfl
  | succ n ih =>
    rw [List.replicate_succ, String.utf8Len_cons, ih]
    rfl

/-- Between half the limit and the limit, this many line ends fit only as a text. -/
theorem onlyTextFits_lineEnds {n : Nat} (hlarge : 1024 * 1024 < n * 2) (hfits : n ≤ 1024 * 1024) :
    OnlyTextFits (lineEnds n) (String.ofList (List.replicate n '\n')) := by
  refine ⟨?_, ?_, ?_⟩
  · rw [size_lineEnds]
    exact Int.ofNat_lt.mpr hlarge
  · rw [toList_lineEnds]
    refine (Encoding.text_flatMap _).trans ?_
    rw [Text.unifyLineEnds, unifyLineEndsOnto_returns, List.reverse_nil, List.nil_append]
  · rw [String.utf8ByteSize_ofList, utf8Len_replicate]
    exact Int.ofNat_le.mpr hfits

/-- A parser that finds an empty program. -/
def emptyProgram : SourceParser := fun _ _ => .leaf "program"

/-- A file of line ends. -/
def lineEndsFile (n : Nat) : FileStore := [(["a.ts"], .file (lineEnds n))]

theorem hasFile_lineEnds (input : ByteArray) (n : Nat) :
    (storeWorld input emptyProgram).HasFile (lineEndsFile n) (Path.ofText "a.ts") (lineEnds n) := by
  have hpath : Path.ofText "a.ts" = ⟨"", ["a.ts"]⟩ :=
    Path.ofText_of_name (by decide) (by decide) (by decide)
  rw [hpath]
  exact ⟨rfl, rfl⟩

theorem read_lookingLine :
    Invocation.read (inspectLine "a.ts" none) = .ok ⟨false, .inspect "a.ts" none true⟩ :=
  read_inspectLine (by decide) none

theorem read_pipingLine :
    Invocation.read (inspectLine "-" (some "a.ts")) = .ok ⟨false, .inspect "-" (some "a.ts") true⟩ :=
  read_inspectLine (by decide) (some "a.ts")

theorem statusOf_ne_error (r : Report) : statusOf r ≠ .error := by
  unfold statusOf
  split <;> decide

theorem name_ofText_lineEndsFile : (Path.ofText "a.ts").name = "a.ts" :=
  Path.name_ofText_of_name (by decide) (by decide) (by decide)

theorem ending_of_lineEndsFile {n : Nat} (hlarge : 1024 * 1024 < n * 2) :
    ((run (storeWorld .empty emptyProgram) (inspectLine "a.ts" none)).run
      (lineEndsFile n)).1.ending = .ok .error := by
  have ends := (quiet_storeWorld .empty emptyProgram).ends_run (s := lineEndsFile n)
    read_lookingLine rfl
  have hlt : limits.maxBytes < (lineEnds n).size := by
    rw [size_lineEnds]
    exact Int.ofNat_lt.mpr hlarge
  have refusal := World.reportOn_file_of_lt name_ofText_lineEndsFile (by decide)
    (hasFile_lineEnds .empty n) hlt none
  exact (ends.inspect_refused refusal fun _ => nofun).1

theorem ending_of_lineEnds {n : Nat} (hlarge : 1024 * 1024 < n * 2) (hfits : n ≤ 1024 * 1024) :
    ((run (storeWorld (lineEnds n) emptyProgram)
      (inspectLine "-" (some "a.ts"))).run []).1.ending ≠ .ok .error := by
  have ends := (quiet_storeWorld (lineEnds n) emptyProgram).ends_run (s := []) read_pipingLine rfl
  have rows : ∀ n ∈ (SyntaxNode.leaf "program").preorder, 0 ≤ n.start.row := by decide
  obtain ⟨report, hreport⟩ := exists_analyze_eq_ok emptyProgram
    (String.ofList (List.replicate n '\n')) (some "a.ts") rfl rows .standard
  have hsource : IsSourceName "a.ts" := by decide
  have hinput : ((storeWorld (lineEnds n) emptyProgram).input.run []).1 = .ok (lineEnds n) := rfl
  have found := (onlyTextFits_lineEnds hlarge hfits).reportOn_input hsource hinput
  obtain ⟨hending, -⟩ := ends.inspect_found
    (found.trans (congrArg (Except.mapError Refusal.analysis) hreport))
  intro herror
  exact statusOf_ne_error report (Except.ok.inj (hending.symm.trans herror))

/-! ## Both ways -/

/-- **The same bytes in a file and as standard input.** Take a file whose name ends in `.ts`
or `.tsx`, at any path, and a standard input with the bytes of the file, where looking at
either changes nothing and the parsers give the same trees. Look at the file, and look at
the standard input under the name of the file, both with the report as JSON. The tool
ends alike and puts out the same, unless the bytes are above the limit and their text is
within it and has a report. Then some carriage return stands before a line feed, the
file is refused, and the report on the text is put out for the standard input. A name
without a slash is a path to itself, and the two command lines can be written. -/
theorem piped_source_ends_like_file {w : World (StateM σ)} {v : World (StateM τ)}
    (quiet : w.Quiet) (quiet' : v.Quiet)
    (hparser : ∀ variant source, v.parser variant source = w.parser variant source)
    {s : σ} {t : τ} {target name : String} {bytes : ByteArray}
    (hname : (Path.ofText target).name = name) (hsource : IsSourceName name)
    (hfile : w.HasFile s (Path.ofText target) bytes) (hinput : (v.input.run t).1 = .ok bytes)
    {looking piping : List String} {given : Option String} {verbose verbose' : Bool}
    (hlooking : Invocation.read looking = .ok ⟨verbose, .inspect target given true⟩)
    (hpiping : Invocation.read piping = .ok ⟨verbose', .inspect "-" (some name) true⟩)
    {shown piped : Outcome} {after : σ} {after' : τ}
    (hshown : (run w looking).run s = (shown, after))
    (hpiped : (run v piping).run t = (piped, after')) :
    ((∀ source, OnlyTextFits bytes source →
          ∀ report, analyze v.parser source (some name) Catalogue.standard ≠ .ok report) →
        shown.ending = piped.ending ∧ shown.output = piped.output)
      ∧ (∀ source, OnlyTextFits bytes source →
          ∀ report, analyze v.parser source (some name) Catalogue.standard = .ok report →
            [0x0D, 0x0A] <:+: bytes.toList
              ∧ shown.ending = .ok .error ∧ shown.output = ""
              ∧ piped.ending = .ok (statusOf report)
              ∧ piped.output = report.exportJson Json.reportIndent)
      ∧ ('/' ∉ name.toList → (Path.ofText name).name = name)
      ∧ (name.toList.head? ≠ some '-' →
          Invocation.read (inspectLine name none) = .ok ⟨false, .inspect name none true⟩)
      ∧ Invocation.read (inspectLine "-" (some name))
          = .ok ⟨false, .inspect "-" (some name) true⟩ := by
  have hsame : v.parser = w.parser := funext fun variant => funext (hparser variant)
  have ends := quiet.ends_run hlooking hshown
  have ends' := quiet'.ends_run hpiping hpiped
  -- Above the limit the file is refused, whatever becomes of the standard input.
  have hrefused (hlt : limits.maxBytes < bytes.size) : shown.ending = .ok .error ∧ shown.output = "" :=
    ends.inspect_refused (World.reportOn_file_of_lt hname hsource hfile hlt given) fun _ => nofun
  refine ⟨?_, ?_, fun hslash => Path.name_ofText_of_name hslash hsource.ne_empty hsource.ne_point,
    fun hhead => read_inspectLine (hsource.namesSource hhead) none,
    read_inspectLine (by decide) (some name)⟩
  · intro hnone
    by_cases hle : (bytes.size : Int) ≤ limits.maxBytes
    · exact ends.inspect_congr ends'
        (World.reportOn_file_of_le hname hsource hfile hinput hsame hle given)
    · have hlt := Int.not_le.mp hle
      obtain ⟨hending, houtput⟩ := hrefused hlt
      obtain ⟨r, hreport, hread⟩ := World.reportOn_input_of_lt hsource hinput hlt hnone
      obtain ⟨hending', houtput'⟩ := ends'.inspect_refused hreport hread
      exact ⟨hending.trans hending'.symm, houtput.trans houtput'.symm⟩
  · intro source hfits report hanalyze
    have hreport := hfits.reportOn_input hsource hinput
    rw [hanalyze] at hreport
    obtain ⟨hending, houtput⟩ := hrefused hfits.large
    obtain ⟨hending', houtput'⟩ := ends'.inspect_found hreport
    exact ⟨hfits.has_lineEnd, hending, houtput, hending', houtput'⟩

theorem piped_source_ends_like_file_lineEnd :
    (storeWorld .empty emptyProgram).HasFile (lineEndsFile 1) (Path.ofText "a.ts") (lineEnds 1)
      ∧ IsSourceName "a.ts" ∧ (∀ source, ¬OnlyTextFits (lineEnds 1) source)
      ∧ ((run (storeWorld .empty emptyProgram) (inspectLine "a.ts" none)).run
            (lineEndsFile 1)).1.ending
        = ((run (storeWorld (lineEnds 1) emptyProgram) (inspectLine "-" (some "a.ts"))).run
            []).1.ending
      ∧ ((run (storeWorld .empty emptyProgram) (inspectLine "a.ts" none)).run
            (lineEndsFile 1)).1.output
        = ((run (storeWorld (lineEnds 1) emptyProgram) (inspectLine "-" (some "a.ts"))).run
            []).1.output := by
  have hsource : IsSourceName "a.ts" := by decide
  have hsmall : ∀ source, ¬OnlyTextFits (lineEnds 1) source := by
    intro source h
    exact absurd h.large (by decide)
  have hfile := hasFile_lineEnds .empty 1
  obtain ⟨hsame, -⟩ := piped_source_ends_like_file (quiet_storeWorld .empty emptyProgram)
    (quiet_storeWorld (lineEnds 1) emptyProgram) (fun _ _ => rfl) name_ofText_lineEndsFile hsource
    hfile (t := []) rfl read_lookingLine read_pipingLine rfl rfl
  exact ⟨hfile, hsource, hsmall, hsame fun source hfits => absurd hfits (hsmall source)⟩

/-- One line end above half the limit, a file is refused that is analysed as standard
input. -/
theorem piped_source_differs_from_file :
    ((run (storeWorld .empty emptyProgram) (inspectLine "a.ts" none)).run
        (lineEndsFile 524289)).1.ending = .ok .error
      ∧ ((run (storeWorld (lineEnds 524289) emptyProgram)
          (inspectLine "-" (some "a.ts"))).run []).1.ending ≠ .ok .error :=
  ⟨ending_of_lineEndsFile (by decide), ending_of_lineEnds (by decide) (by decide)⟩

end CodeSmell.CommandLine
