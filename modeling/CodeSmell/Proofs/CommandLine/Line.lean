/-
How a source is named on the command line.

Two command lines are of interest: the one that looks at a source and puts out JSON, and
the one that exports the report on it as JSON. The main statements say what is read from
them, for any source and any name. Any text may be the name, since it is written behind
an equals sign; a source is any text that is not taken for an option or for a command.

An argument is sorted before any of them takes effect, so each statement is put together
from what the arguments are and from what each of them does in its turn.
-/
import CodeSmell.CommandLine.Invocation
import Mathlib.Data.List.TakeDrop

set_option autoImplicit false

namespace CodeSmell.CommandLine

/-! ## What arguments are -/

section

variable {σ : Type} {flags : List (Flag σ)}

/-- A value behind an equals sign is parted from the name in front of it. -/
theorem atEquals_append {name : List Char} (h : '=' ∉ name) (value : List Char) :
    atEquals (name ++ '=' :: value) = (name, some ⟨true, value⟩) := by
  have hname : ∀ c ∈ name, decide (c ≠ '=') = true := by
    intro c hc
    exact decide_eq_true fun heq => h (heq ▸ hc)
  rw [atEquals, List.span_eq_takeWhile_dropWhile, List.takeWhile_append_of_pos hname,
    List.dropWhile_append_of_pos hname, List.takeWhile_cons_of_neg (by decide),
    List.dropWhile_cons_of_neg (by decide), List.append_nil]

/-- A text with an equals sign is no name of an option. -/
theorem find?_eq_none {argument : String}
    (hflags : ∀ entry ∈ Flag.named flags, '=' ∉ entry.1.toList) (h : '=' ∈ argument.toList) :
    Flag.find? flags argument = none := by
  refine List.lookup_eq_none_iff.mpr fun entry hentry => bne_iff_ne.mpr ?_
  rintro rfl
  exact hflags entry hentry h

/-- A name with a value behind an equals sign, character by character. -/
theorem toList_equals (name value : String) :
    (name ++ "=" ++ value).toList = name.toList ++ '=' :: value.toList := by
  rw [String.toList_append, String.toList_append, List.append_assoc]
  rfl

section

variable {name : String} (hhead : name.toList.head? = some '-')

include hhead

/-- An option by its name. -/
theorem sort_name {f : Flag σ} (hfind : Flag.find? flags name = some f) :
    sort flags name = .ok (.option f name none) := by
  rw [sort, if_neg (not_not_intro hhead), hfind]

/-- What begins like an option and has a value behind an equals sign is sorted by the name
in front of it. -/
theorem sort_equals (hflags : ∀ entry ∈ Flag.named flags, '=' ∉ entry.1.toList)
    (hname : '=' ∉ name.toList) (value : String) :
    sort flags (name ++ "=" ++ value)
      = match Flag.find? flags name with
        | some f => .ok (.option f name (some ⟨true, value.toList⟩))
        | none => sortUnnamed flags (name ++ "=" ++ value) := by
  have hdash : (name ++ "=" ++ value).toList.head? = some '-' := by
    rw [toList_equals, List.head?_append, hhead]
    rfl
  have hlength : (name ++ "=" ++ value).toList.length ≠ 1 := by
    obtain ⟨rest, hrest⟩ := List.head?_eq_some_iff.mp hhead
    rw [toList_equals, hrest, List.length_append, List.length_cons, List.length_cons]
    omega
  have hunnamed : Flag.find? flags (name ++ "=" ++ value) = none := by
    refine find?_eq_none hflags ?_
    rw [toList_equals]
    exact List.mem_append_right _ List.mem_cons_self
  rw [sort, if_neg (not_not_intro hdash), hunnamed]
  simp only [if_neg hlength]
  rw [toList_equals, atEquals_append hname]
  cases hfind : Flag.find? flags name with
  | some f => simp only [String.ofList_toList, hfind]
  | none => simp only [String.ofList_toList, hfind]

end

/-- What is written with an equals sign behind the beginning of no option is sorted, to the
operands or to the strangers. -/
theorem exists_sort_equals {name : String} (hlong : ['-', '-'] <+: name.toList)
    (hflags : ∀ entry ∈ Flag.named flags, '=' ∉ entry.1.toList)
    (hstart : ∀ entry ∈ Flag.named flags, name.toList.isPrefixOf entry.1.toList = false)
    (hname : '=' ∉ name.toList) (value : String) :
    ∃ part, sort flags (name ++ "=" ++ value) = .ok part := by
  have hhead : name.toList.head? = some '-' := by
    obtain ⟨rest, hrest⟩ := hlong
    rw [← hrest]
    rfl
  have hdashes : ['-', '-'].isPrefixOf (name ++ "=" ++ value).toList = true := by
    rw [toList_equals]
    exact List.isPrefixOf_iff_prefix.mpr (hlong.trans (List.prefix_append _ _))
  have hcandidates : candidates flags (name ++ "=" ++ value) = [] := by
    rw [candidates, if_pos hdashes, byBeginning, toList_equals, atEquals_append hname]
    refine List.map_eq_nil_iff.mpr (List.filter_eq_nil_iff.mpr fun entry hentry => ?_)
    exact Bool.eq_false_iff.mp (hstart entry hentry)
  rw [sort_equals hhead hflags hname]
  cases Flag.find? flags name with
  | some f => exact ⟨_, rfl⟩
  | none =>
    simp only [sortUnnamed, hcandidates]
    split <;> exact ⟨_, rfl⟩

/-- What does not begin with a hyphen is an operand, and so is a hyphen alone. -/
theorem sort_operand {argument : String} (hflags : Flag.find? flags "-" = none)
    (h : argument.toList.head? ≠ some '-' ∨ argument = "-") :
    sort flags argument = .ok .operand := by
  rcases h with h | rfl
  · rw [sort, if_pos h]
  · rw [sort, hflags]
    rfl

/-- Arguments are sorted one after another, up to a divider. -/
theorem sortAll_cons {argument : String} {part : Part σ} {rest : List String}
    {parts : List (String × Part σ)} (hne : argument ≠ divider)
    (hsort : sort flags argument = .ok part) (hrest : sortAll flags rest = .ok parts) :
    sortAll flags (argument :: rest) = .ok ((argument, part) :: parts) := by
  rw [sortAll, if_neg hne, hsort, hrest]
  rfl

/-- If each argument can be sorted and none is a divider, all are sorted in their order. -/
theorem exists_sortAll {arguments : List String}
    (h : ∀ a ∈ arguments, a ≠ divider ∧ ∃ part, sort flags a = .ok part) :
    ∃ parts, sortAll flags arguments = .ok parts ∧ parts.map (·.1) = arguments := by
  induction arguments with
  | nil => exact ⟨[], rfl, rfl⟩
  | cons argument rest ih =>
    obtain ⟨hne, part, hsort⟩ := h argument List.mem_cons_self
    obtain ⟨parts, hparts, htexts⟩ := ih fun a ha => h a (List.mem_cons_of_mem _ ha)
    exact ⟨_, sortAll_cons hne hsort hparts, congrArg (argument :: ·) htexts⟩

end

/-! ## Arguments at work -/

namespace Interface

variable {σ : Type} (i : Interface σ)

/-- The only operand. -/
theorem readParts_single (settings : σ) (name : String) (store : String → σ → σ)
    (leftover : List String) (text : String) (rest : List (String × Part σ)) :
    i.readParts ⟨settings, .single name store, leftover⟩ ((text, .operand) :: rest)
      = i.readParts ⟨store text settings, .none, leftover⟩ (passDivider rest) := by
  rw [readParts]

/-- An option is expanded, its effects are made, and the next argument is passed over if
it was its value. -/
theorem readParts_option {f : Flag σ} {name : String} {attached : Option Attached}
    {bundle : Bundle σ} {p : Progress σ} {rest : List (String × Part σ)} {settings : σ}
    (hexpand : expand i.flags f name attached = .ok bundle)
    (htrigger : i.triggerAll bundle (nextOperand rest) p.settings = .ok settings)
    (text : String) :
    i.readParts p ((text, .option f name attached) :: rest)
      = i.readParts { p.leave? bundle.stray with settings := settings }
          (if bundle.waiting?.isSome then rest.tail else rest) := by
  rw [readParts, hexpand]
  simp only [orMisused, Except.mapError, bind, Except.bind, htrigger]
  split <;> rfl

/-- A switch. -/
theorem readParts_switch {f : Flag σ} {apply : σ → σ} (heffect : f.effect = .switch apply)
    (p : Progress σ) (text name : String) (rest : List (String × Part σ)) :
    i.readParts p ((text, .option f name none) :: rest)
      = i.readParts { p with settings := apply p.settings } rest := by
  have hwaiting : (⟨[(f, none)], none⟩ : Bundle σ).waiting? = none := by
    simp [Bundle.waiting?, Flag.takesValue, heffect]
  have htrigger : i.triggerAll ⟨[(f, none)], none⟩ (nextOperand rest) p.settings
      = .ok (apply p.settings) := by
    simp only [triggerAll, hwaiting, List.foldlM_cons, List.foldlM_nil, trigger, heffect]
    rfl
  rw [i.readParts_option rfl htrigger, hwaiting]
  rfl

/-- A value behind an equals sign. -/
theorem readParts_value {f : Flag σ} {store : String → σ → σ}
    (heffect : f.effect = .value [] store) (p : Progress σ) (text name value : String)
    (rest : List (String × Part σ)) :
    i.readParts p ((text, .option f name (some ⟨true, value.toList⟩)) :: rest)
      = i.readParts { p with settings := store value p.settings } rest := by
  have hexpand : expand i.flags f name (some ⟨true, value.toList⟩)
      = .ok ⟨[(f, some value)], none⟩ := by
    simp only [expand, Flag.takesValue, heffect, String.ofList_toList, if_true]
  have hwaiting : (⟨[(f, some value)], none⟩ : Bundle σ).waiting? = none := by
    simp [Bundle.waiting?]
  have htrigger : i.triggerAll ⟨[(f, some value)], none⟩ (nextOperand rest) p.settings
      = .ok (store value p.settings) := by
    simp only [triggerAll, hwaiting, List.foldlM_cons, List.foldlM_nil, trigger, heffect,
      Option.some_or, checkChoice, List.isEmpty_nil, Bool.true_or, if_true]
    rfl
  rw [i.readParts_option hexpand htrigger, hwaiting]
  rfl

/-- A value in the next argument, which is one of the choices if there are any. -/
theorem readParts_next {f : Flag σ} {choices : List String} {store : String → σ → σ}
    {value : String} (heffect : f.effect = .value choices store)
    (hvalue : (choices.isEmpty || choices.contains value) = true) (p : Progress σ)
    (text name : String) (rest : List (String × Part σ)) :
    i.readParts p ((text, .option f name none) :: (value, .operand) :: rest)
      = i.readParts { p with settings := store value p.settings } rest := by
  have hwaiting : (⟨[(f, none)], none⟩ : Bundle σ).waiting? = some f := by
    simp [Bundle.waiting?, Flag.takesValue, heffect]
  have hchoice : i.checkChoice f.label value choices = .ok () := if_pos hvalue
  have htrigger : i.triggerAll ⟨[(f, none)], none⟩ (nextOperand ((value, .operand) :: rest))
      p.settings = .ok (store value p.settings) := by
    simp only [triggerAll, hwaiting, nextOperand, List.foldlM_cons, List.foldlM_nil, trigger,
      heffect, Option.none_or, hchoice]
    rfl
  rw [i.readParts_option rfl htrigger, hwaiting]
  rfl

/-- A command takes all arguments behind it. -/
theorem readParts_command {settings result : σ} {name : String} {choices : List String}
    {run : String → List String → σ → Except Stop (σ × List String)} {command : String}
    {rest : List (String × Part σ)} (hcommand : command ∈ choices)
    (hrun : run command (rest.map (·.1)) settings = .ok (result, [])) :
    i.readParts ⟨settings, .command name choices run, []⟩ ((command, .operand) :: rest)
      = .ok ⟨result, .none, []⟩ := by
  have hchoice : i.checkChoice name command choices = .ok () := by
    rw [checkChoice, if_pos]
    simp [hcommand]
  simp only [readParts, runCommand, hchoice, bind, Except.bind, hrun]
  rfl

/-- Arguments are read into settings if each of them is taken. -/
theorem read_eq {arguments : List String} {settings result : σ} {parts : List (String × Part σ)}
    (hsort : sortAll i.flags arguments = .ok parts)
    (hparts : i.readParts ⟨settings, i.operand, []⟩ parts = .ok ⟨result, .none, []⟩) :
    i.read arguments settings = .ok (result, []) := by
  rw [read, hsort]
  simp only [orMisused, Except.mapError, bind, Except.bind, hparts]
  rfl

theorem readAll_eq {arguments : List String} {settings result : σ}
    (h : i.read arguments settings = .ok (result, [])) :
    i.readAll arguments settings = .ok result := by
  rw [readAll, h]
  rfl

end Interface

/-! ## The name of a source -/

/-- The option that gives a source a name, if there is a name. -/
def nameOption : Option String → List String
  | none => []
  | some name => ["--filename" ++ "=" ++ name]

/-- What the option is to an interface that has it. -/
def nameParts : Option String → List (String × Part Draft)
  | none => []
  | some name =>
    [("--filename" ++ "=" ++ name, .option filenameFlag "--filename" (some ⟨true, name.toList⟩))]

theorem nameOption_ne_divider (name : String) : "--filename" ++ "=" ++ name ≠ divider := by
  intro heq
  have hlength := congrArg String.length heq
  rw [String.length_append] at hlength
  have hname : ("--filename" ++ "=").length = 11 := rfl
  have hdivider : divider.length = 2 := rfl
  omega

theorem sortAll_nameOption {flags : List (Flag Draft)}
    (hflags : ∀ entry ∈ Flag.named flags, '=' ∉ entry.1.toList)
    (hfind : Flag.find? flags "--filename" = some filenameFlag) (filename : Option String)
    {rest : List String} {parts : List (String × Part Draft)}
    (hrest : sortAll flags rest = .ok parts) :
    sortAll flags (nameOption filename ++ rest) = .ok (nameParts filename ++ parts) := by
  cases filename with
  | none => exact hrest
  | some name =>
    have hhead : "--filename".toList.head? = some '-' := rfl
    have hsort := sort_equals hhead hflags (by decide) name
    rw [hfind] at hsort
    exact sortAll_cons (nameOption_ne_divider name) hsort hrest

theorem readParts_nameParts (i : Interface Draft) {p : Interface.Progress Draft}
    (hp : p.settings.filename = none) (filename : Option String)
    (rest : List (String × Part Draft)) :
    i.readParts p (nameParts filename ++ rest)
      = i.readParts { p with settings := { p.settings with filename := filename } } rest := by
  cases filename with
  | none =>
    obtain ⟨settings, operand, leftover⟩ := p
    cases settings
    obtain rfl := hp
    rfl
  | some name => exact i.readParts_value (f := filenameFlag) rfl p _ _ name rest

/-- No divider comes with the option. -/
theorem passDivider_nameParts (filename : Option String) {part : String × Part Draft}
    {parts : List (String × Part Draft)}
    (h : Interface.passDivider (part :: parts) = part :: parts) :
    Interface.passDivider (nameParts filename ++ part :: parts)
      = nameParts filename ++ part :: parts := by
  cases filename with
  | none => exact h
  | some name => rfl

/-! ## Two command lines -/

/-- A source is looked at, and the report is put out as JSON. -/
def inspectLine (target : String) (filename : Option String) : List String :=
  target :: (nameOption filename ++ ["--json"])

/-- The form of an export is JSON. -/
def renderArguments (target : String) (filename : Option String) : List String :=
  target :: (nameOption filename ++ ["--format", "json"])

/-- The report on a source is exported as JSON. -/
def renderLine (target : String) (filename : Option String) : List String :=
  "export" :: renderArguments target filename

/-- What is read behind the name of the command for exporting is what is read. -/
theorem read_export {arguments : List String} {d : Draft}
    (hsort : ∃ parts, sortAll commandInterface.flags arguments = .ok parts
      ∧ parts.map (·.1) = arguments)
    (hread : readCommand "export" arguments {} = .ok (d, [])) :
    Invocation.read ("export" :: arguments) = .ok ⟨d.verbose, d.commandGiven⟩ := by
  obtain ⟨parts, hparts, htexts⟩ := hsort
  have hwhole : commandInterface.read ("export" :: arguments) {} = .ok (d, []) := by
    refine commandInterface.read_eq (sortAll_cons (by decide) (sort_operand rfl (by decide)) hparts)
      (commandInterface.readParts_command (by decide) ?_)
    rw [htexts, hread]
  have hnames : ¬namesSource ("export" :: arguments) = true := by
    rw [namesSource, firstOperand?, List.find?_cons_of_pos (by decide)]
    decide
  rw [Invocation.read, if_neg hnames, commandInterface.readAll_eq hwhole]
  rfl

section

variable {target : String} (h : namesSource [target] = true)

include h

/-- What names a source when it stands first is an operand. -/
theorem isOperand_of_namesSource : target.toList.head? ≠ some '-' ∨ target = "-" := by
  by_contra hoption
  rw [namesSource, firstOperand?, List.find?_cons_of_neg (by simpa using hoption)] at h
  exact Bool.false_ne_true h

theorem ne_divider_of_namesSource : target ≠ divider := by
  rintro rfl
  exact absurd (isOperand_of_namesSource h) (by decide)

theorem namesSource_cons (rest : List String) : namesSource (target :: rest) = true := by
  have hoperand := isOperand_of_namesSource h
  rw [namesSource, firstOperand?, List.find?_cons_of_pos (by simpa using hoperand)] at h ⊢
  exact h

/-- A source by itself, possibly with a name, is looked at. -/
theorem read_inspectLine (filename : Option String) :
    Invocation.read (inspectLine target filename)
      = .ok ⟨false, .inspect target filename true⟩ := by
  have hjson : sort inspectInterface.flags "--json" = .ok (.option jsonFlag "--json" none) :=
    sort_name (by decide) rfl
  have hsort : sortAll inspectInterface.flags (inspectLine target filename)
      = .ok ((target, .operand)
          :: (nameParts filename ++ [("--json", .option jsonFlag "--json" none)])) :=
    sortAll_cons (ne_divider_of_namesSource h) (sort_operand rfl (isOperand_of_namesSource h))
      (sortAll_nameOption (by decide) rfl filename (sortAll_cons (by decide) hjson rfl))
  have hread : inspectInterface.read (inspectLine target filename) {}
      = .ok ({ target := target, filename := filename, json := true }, []) := by
    refine inspectInterface.read_eq hsort ?_
    rw [inspectInterface, targetOperand, Interface.readParts_single,
      passDivider_nameParts filename rfl, readParts_nameParts _ rfl, Interface.readParts_switch _ rfl,
      Interface.readParts]
  have hnames : namesSource (inspectLine target filename) = true := namesSource_cons h _
  rw [Invocation.read, if_pos hnames, inspectInterface.readAll_eq hread]
  rfl

/-- The arguments behind the command can be sorted before the command reads them. -/
theorem exists_sortAll_render (filename : Option String) :
    ∃ parts, sortAll commandInterface.flags (renderArguments target filename) = .ok parts
      ∧ parts.map (·.1) = renderArguments target filename := by
  refine exists_sortAll fun a ha => ?_
  rcases List.mem_cons.mp ha with rfl | ha
  · exact ⟨ne_divider_of_namesSource h, _, sort_operand rfl (isOperand_of_namesSource h)⟩
  rcases List.mem_append.mp ha with hname | hformat
  · cases filename with
    | none => exact absurd hname List.not_mem_nil
    | some name =>
      obtain rfl := List.mem_singleton.mp hname
      exact ⟨nameOption_ne_divider name,
        exists_sort_equals (by decide) (by decide) (by decide) (by decide) name⟩
  · rcases List.mem_cons.mp hformat with rfl | hjson
    · exact ⟨by decide, .stranger, rfl⟩
    · obtain rfl := List.mem_singleton.mp hjson
      exact ⟨by decide, .operand, rfl⟩

/-- The report on a source, possibly with a name, is exported. -/
theorem read_renderLine (filename : Option String) :
    Invocation.read (renderLine target filename)
      = .ok ⟨false, .render target filename .json none⟩ := by
  have hformat : sort renderInterface.flags "--format" = .ok (.option formatFlag "--format" none) :=
    sort_name (by decide) rfl
  have hsort : sortAll renderInterface.flags (renderArguments target filename)
      = .ok ((target, .operand) :: (nameParts filename
          ++ [("--format", .option formatFlag "--format" none), ("json", .operand)])) :=
    sortAll_cons (ne_divider_of_namesSource h) (sort_operand rfl (isOperand_of_namesSource h))
      (sortAll_nameOption (by decide) rfl filename
        (sortAll_cons (by decide) hformat (sortAll_cons (by decide) (sort_operand rfl (by decide)) rfl)))
  have hcommand : readCommand "export" (renderArguments target filename) {}
      = .ok ({ target := target, filename := filename, format := .json,
               command := some "export" }, []) := by
    refine renderInterface.read_eq hsort ?_
    rw [renderInterface, targetOperand, Interface.readParts_single,
      passDivider_nameParts filename rfl, readParts_nameParts _ rfl,
      Interface.readParts_next _ rfl (by decide), Interface.readParts]
    rfl
  exact read_export (exists_sortAll_render h filename) hcommand

end

end CodeSmell.CommandLine
