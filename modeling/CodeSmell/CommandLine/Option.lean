/-
Options and operands of a command line.

An argument is an option, an operand, or the divider `--`, behind which there are
only operands. An option may be written by any beginning of a long name that fits
no other option, and may carry its value behind an equals sign. Options of one
letter may be written together, and the last of them may have its value right
behind it. What looks like a negative number or holds a blank is an operand, unless
it is an option. Arguments are sorted by what they are before any of them takes
effect; then they are gone through from left to right.

An interface has at most one kind of operand. A single operand takes one argument,
and a command takes everything that follows it and reads it by an interface of its
own. What nobody takes is left over.
-/
import CodeSmell.Text.Digit
import CodeSmell.Text.Quoted

set_option autoImplicit false

namespace CodeSmell.CommandLine

/-- How a command line is at odds with an interface. -/
inductive Misuse where
  | ambiguous (given : String) (names : List String)
  | valueMissing (label : String)
  | valueIgnored (label value : String)
  | notAChoice (label value : String) (choices : List String)
  | operandMissing (name : String)
  | unrecognized (arguments : List String)
  deriving DecidableEq, Repr

/-- The wording of a misuse. -/
def Misuse.message : Misuse → String
  | ambiguous given names =>
    "ambiguous option: " ++ given ++ " could match " ++ ", ".intercalate names
  | valueMissing label => "argument " ++ label ++ ": expected one argument"
  | valueIgnored label value =>
    "argument " ++ label ++ ": ignored explicit argument " ++ Text.quoted value
  | notAChoice label value choices =>
    "argument " ++ label ++ ": invalid choice: " ++ Text.quoted value
      ++ " (choose from " ++ Text.quotedList choices ++ ")"
  | operandMissing name => "the following arguments are required: " ++ name
  | unrecognized arguments => "unrecognized arguments: " ++ " ".intercalate arguments

/-- Why the reading of a command line stops. -/
inductive Stop where
  /-- A text was asked for, which is all there is to do. -/
  | answered (text : String)
  /-- The command line cannot be read by the interface of a program. -/
  | misused (usage program : String) (misuse : Misuse)
  deriving DecidableEq, Repr

variable {σ : Type}

/-- What an option does to the settings of an interface. -/
inductive Effect (σ : Type) where
  /-- It takes no value. -/
  | switch (apply : σ → σ)
  /-- It takes a value, and if there are choices one of them. -/
  | value (choices : List String) (store : String → σ → σ)
  /-- It asks for a text. -/
  | answer (text : String)

/-- An option. -/
structure Flag (σ : Type) where
  names : List String
  effect : Effect σ

namespace Flag

/-- How messages name an option. -/
def label (f : Flag σ) : String := "/".intercalate f.names

/-- The option takes a value. -/
def takesValue (f : Flag σ) : Bool :=
  match f.effect with
  | .value _ _ => true
  | _ => false

/-- The options of an interface by their names, in order. -/
def named (flags : List (Flag σ)) : List (String × Flag σ) :=
  flags.flatMap fun f => f.names.map fun name => (name, f)

/-- The option of a name. -/
def find? (flags : List (Flag σ)) (name : String) : Option (Flag σ) := (named flags).lookup name

end Flag

/-- What an interface takes beside options. -/
inductive Operand (σ : Type) where
  | none
  | single (name : String) (store : String → σ → σ)
  /-- A command, with what comes of the arguments behind it. -/
  | command (name : String) (choices : List String)
      (run : String → List String → σ → Except Stop (σ × List String))

/-- What a program, or one command of it, can be given. -/
structure Interface (σ : Type) where
  program : String
  usage : String
  flags : List (Flag σ)
  operand : Operand σ

/-! ## Arguments by what they are -/

/-- What is written in one argument with an option: behind an equals sign, or right
behind the letter of the option. -/
structure Attached where
  behindEquals : Bool
  text : List Char

/-- What an argument is. -/
inductive Part (σ : Type) where
  | operand
  | divider
  /-- An option that the interface has. -/
  | option (flag : Flag σ) (name : String) (attached : Option Attached)
  /-- An option that the interface does not have. -/
  | stranger

/-- An argument at its first equals sign. -/
def atEquals (argument : List Char) : List Char × Option Attached :=
  match argument.span (· ≠ '=') with
  | (name, _ :: value) => (name, some ⟨true, value⟩)
  | (name, []) => (name, none)

/-- The options that a long option may stand for, with what is written with it. -/
def byBeginning (flags : List (Flag σ)) (argument : String) :
    List (Flag σ × String × Option Attached) :=
  let (start, attached) := atEquals argument.toList
  ((Flag.named flags).filter fun (name, _) => start.isPrefixOf name.toList).map
    fun (name, f) => (f, name, attached)

/-- The options that a one-letter option with something behind it may stand for. -/
def byLetter (flags : List (Flag σ)) (argument : String) :
    List (Flag σ × String × Option Attached) :=
  (Flag.named flags).filterMap fun (name, f) =>
    if name.toList = argument.toList.take 2 then
      some (f, name, some ⟨false, argument.toList.drop 2⟩)
    else if argument.toList.isPrefixOf name.toList then some (f, name, none)
    else none

/-- The options that an argument may stand for without being the name of one. -/
def candidates (flags : List (Flag σ)) (argument : String) :
    List (Flag σ × String × Option Attached) :=
  if ['-', '-'].isPrefixOf argument.toList then byBeginning flags argument
  else byLetter flags argument

/-- Only decimal digits, and at least one. -/
def isDigits (cs : List Char) : Bool :=
  !cs.isEmpty && cs.all fun c => (Text.decimalDigit? c).isSome

/-- A minus sign, and an integer or a fraction with a point. A line feed at the end is
not minded. -/
def isNegativeNumber (argument : String) : Bool :=
  match argument.toList with
  | '-' :: body =>
    let body := if body.getLast? = some '\n' then body.dropLast else body
    match body.span (· ≠ '.') with
    | (whole, _ :: fraction) => (whole.isEmpty || isDigits whole) && isDigits fraction
    | (whole, []) => isDigits whole
  | _ => false

/-- What an argument is that is not the name of an option and has more than one
character. -/
def sortUnnamed (flags : List (Flag σ)) (argument : String) : Except Misuse (Part σ) :=
  match candidates flags argument with
  | [(f, name, attached)] => .ok (.option f name attached)
  | [] =>
    if isNegativeNumber argument || argument.toList.contains ' ' then .ok .operand
    else .ok .stranger
  | several => .error (.ambiguous argument (several.map fun (_, name, _) => name))

/-- What an argument is, other than a divider. -/
def sort (flags : List (Flag σ)) (argument : String) : Except Misuse (Part σ) :=
  if argument.toList.head? ≠ some '-' then .ok .operand
  else
    match Flag.find? flags argument with
    | some f => .ok (.option f argument none)
    | none =>
      if argument.toList.length = 1 then .ok .operand
      else
        match atEquals argument.toList with
        | (name, some attached) =>
          match Flag.find? flags (String.ofList name) with
          | some f => .ok (.option f (String.ofList name) (some attached))
          | none => sortUnnamed flags argument
        | (_, none) => sortUnnamed flags argument

/-- The divider. -/
def divider : String := "--"

/-- What each argument is. -/
def sortAll (flags : List (Flag σ)) : List String → Except Misuse (List (String × Part σ))
  | [] => .ok []
  | argument :: rest =>
    if argument = divider then
      .ok ((argument, .divider) :: rest.map fun operand => (operand, .operand))
    else do
      let part ← sort flags argument
      let parts ← sortAll flags rest
      return (argument, part) :: parts

/-! ## Options at work -/

/-- The options that one argument holds, with the values written with them. Only the
last one may be without a value that it takes. -/
structure Bundle (σ : Type) where
  flags : List (Flag σ × Option String)
  /-- What is left of the argument from the first letter on that is no option. -/
  stray : Option String

namespace Bundle

/-- The bundle with one more option in front. -/
def after (f : Flag σ) (b : Bundle σ) : Bundle σ := { b with flags := (f, none) :: b.flags }

/-- The option that takes its value from the next argument. -/
def waiting? (b : Bundle σ) : Option (Flag σ) :=
  (b.flags.find? fun (f, value) => f.takesValue && value.isNone).map (·.1)

end Bundle

/-- The options that are written right behind an option without a value. -/
def unbundle (flags : List (Flag σ)) (f : Flag σ) : List Char → Except Misuse (Bundle σ)
  | [] => .error (.valueIgnored f.label "")
  | '-' :: rest => .error (.valueIgnored f.label (String.ofList ('-' :: rest)))
  | c :: rest =>
    match Flag.find? flags (String.ofList ['-', c]) with
    | none => .ok ⟨[(f, none)], some (String.ofList ('-' :: c :: rest))⟩
    -- The letters behind it are its value if it takes one, else further options.
    | some next =>
      match rest with
      | [] => .ok ⟨[(f, none), (next, none)], none⟩
      | '=' :: value =>
        if next.takesValue then .ok ⟨[(f, none), (next, some (String.ofList value))], none⟩
        else .error (.valueIgnored next.label (String.ofList value))
      | _ =>
        if next.takesValue then .ok ⟨[(f, none), (next, some (String.ofList rest))], none⟩
        else (unbundle flags next rest).map (Bundle.after f)

/-- The options that an argument holds. -/
def expand (flags : List (Flag σ)) (f : Flag σ) (name : String) :
    Option Attached → Except Misuse (Bundle σ)
  | none => .ok ⟨[(f, none)], none⟩
  | some attached =>
    let value := String.ofList attached.text
    if f.takesValue then .ok ⟨[(f, some value)], none⟩
    else if attached.behindEquals || ['-', '-'].isPrefixOf name.toList then
      .error (.valueIgnored f.label value)
    else unbundle flags f attached.text

namespace Interface

/-- The way out for a misuse. -/
def misused {α : Type} (i : Interface σ) (m : Misuse) : Except Stop α :=
  .error (.misused i.usage i.program m)

/-- A step that may be a misuse. -/
def orMisused {α : Type} (i : Interface σ) (outcome : Except Misuse α) : Except Stop α :=
  outcome.mapError (Stop.misused i.usage i.program)

/-- Refuses a value that is not among the choices, if there are any. -/
def checkChoice (i : Interface σ) (label value : String) (choices : List String) :
    Except Stop Unit :=
  if choices.isEmpty || choices.contains value then .ok ()
  else i.misused (.notAChoice label value choices)

/-- Gives an option its effect, with its value if it takes one. -/
def trigger (i : Interface σ) (settings : σ) (f : Flag σ) (value : Option String) :
    Except Stop σ :=
  match f.effect, value with
  | .switch apply, _ => .ok (apply settings)
  | .answer text, _ => .error (.answered text)
  | .value choices store, some v => do
    i.checkChoice f.label v choices
    return store v settings
  | .value _ _, none => i.misused (.valueMissing f.label)

/-- How far the reading of a command line has come. -/
structure Progress (σ : Type) where
  settings : σ
  /-- What is still taken beside options. -/
  operand : Operand σ
  /-- What nobody took, in reverse. -/
  leftover : List String

namespace Progress

/-- Leaves an argument over. -/
def leave (p : Progress σ) (argument : String) : Progress σ :=
  { p with leftover := argument :: p.leftover }

/-- Leaves an argument over, if there is one. -/
def leave? (p : Progress σ) (argument : Option String) : Progress σ :=
  { p with leftover := argument.toList ++ p.leftover }

end Progress

/-- Runs a command on all the arguments that follow. -/
def runCommand (i : Interface σ) (p : Progress σ) (name : String) (choices : List String)
    (run : String → List String → σ → Except Stop (σ × List String))
    (command : String) (arguments : List String) : Except Stop (Progress σ) := do
  i.checkChoice name command choices
  let (settings, leftover) ← run command arguments p.settings
  return ⟨settings, .none, leftover.reverse ++ p.leftover⟩

/-- Gives the options of a bundle their effect. A value that is not written with its
option is the next argument. -/
def triggerAll (i : Interface σ) (b : Bundle σ) (next : Option String) (settings : σ) :
    Except Stop σ :=
  match b.waiting?, next with
  | some f, none => i.misused (.valueMissing f.label)
  -- Only the option that waits takes a value from the next argument.
  | _, _ => b.flags.foldlM (fun settings (f, value) => i.trigger settings f (value.or next)) settings

/-- The next argument, if it is an operand. -/
def nextOperand : List (String × Part σ) → Option String
  | (text, .operand) :: _ => some text
  | _ => none

/-- The arguments behind the next one if that is a divider, else all of them. -/
def passDivider : List (String × Part σ) → List (String × Part σ)
  | (_, .divider) :: rest => rest
  | parts => parts

theorem passDivider_length (parts : List (String × Part σ)) :
    (passDivider parts).length ≤ parts.length := by
  unfold passDivider
  split
  · simp
  · exact Nat.le_refl _

/-- Goes through the arguments. -/
def readParts (i : Interface σ) (p : Progress σ) :
    List (String × Part σ) → Except Stop (Progress σ)
  | [] => .ok p
  | (text, .operand) :: rest =>
    match p.operand with
    | .none => readParts i (p.leave text) rest
    | .single _ store =>
      readParts i { p with settings := store text p.settings, operand := .none }
        (passDivider rest)
    | .command name choices run => i.runCommand p name choices run text (rest.map (·.1))
  | [(text, .divider)] => .ok (p.leave text)
  | (text, .divider) :: (operand, part) :: rest =>
    -- Only operands stand behind the divider.
    match p.operand with
    | .none => readParts i (p.leave text) ((operand, part) :: rest)
    | .single _ store =>
      readParts i { p with settings := store operand p.settings, operand := .none } rest
    | .command name choices run =>
      i.runCommand p name choices run text (operand :: rest.map (·.1))
  | (text, .stranger) :: rest => readParts i (p.leave text) rest
  | (_, .option f name attached) :: rest => do
    let bundle ← i.orMisused (expand i.flags f name attached)
    let settings ← i.triggerAll bundle (nextOperand rest) p.settings
    let p := { p.leave? bundle.stray with settings := settings }
    if bundle.waiting?.isSome then readParts i p rest.tail else readParts i p rest
termination_by parts => parts.length
decreasing_by
  all_goals
    have := passDivider_length rest
    simp only [List.length_cons, List.length_tail]
    omega

/-- Reads arguments into settings, with what is left over. -/
def read (i : Interface σ) (arguments : List String) (settings : σ) :
    Except Stop (σ × List String) := do
  let parts ← i.orMisused (sortAll i.flags arguments)
  let p ← i.readParts ⟨settings, i.operand, []⟩ parts
  match p.operand with
  | .single name _ => i.misused (.operandMissing name)
  | _ => return (p.settings, p.leftover.reverse)

/-- Reads arguments into settings; nothing may be left over. -/
def readAll (i : Interface σ) (arguments : List String) (settings : σ) : Except Stop σ := do
  match ← i.read arguments settings with
  | (settings, []) => return settings
  | (_, leftover) => i.misused (.unrecognized leftover)

end Interface

end CodeSmell.CommandLine
