/-
The commands of the tool, and how they are written.

There are two interfaces. A command line whose first operand names a command, or
that has none, is read by the one with commands; any other one names a source to
look at.
-/
import CodeSmell.CommandLine.Option
import CodeSmell.Intake.Path
import CodeSmell.Report.Export

set_option autoImplicit false

namespace CodeSmell.CommandLine

/-- What the tool is asked to do. -/
inductive Command where
  /-- Nothing. -/
  | idle
  /-- To sum up what is found in a source. -/
  | inspect (target : String) (filename : Option String) (json : Bool)
  /-- To export the report on a source. -/
  | render (target : String) (filename : Option String) (format : ExportFormat)
      (output : Option Path)
  /-- To list the rules. -/
  | listRules (json : Bool)
  deriving DecidableEq, Repr

/-- A command, and whether progress is logged. -/
structure Invocation where
  verbose : Bool
  command : Command
  deriving DecidableEq, Repr

/-- What options and operands have set so far. -/
structure Draft where
  verbose : Bool := false
  target : String := ""
  filename : Option String := none
  json : Bool := false
  format : ExportFormat := .markdown
  output : Option Path := none
  /-- The command that was given. -/
  command : Option String := none

/-! ## Texts -/

/-- The name of the tool. -/
def programName : String := "smell-audit"

/-- What the tool does. -/
def description : String := "Detect structural smells in TypeScript source."

/-- Lines, each with its end. -/
def linesText (lines : List String) : String := String.join (lines.map (· ++ "\n"))

/-- How the interface with commands is used. -/
def commandUsage : List String :=
  ["usage: smell-audit [-h] [--version] [-v] \x7bexport,rules\x7d ..."]

/-- The help of the interface with commands. -/
def commandHelp : List String := commandUsage ++
  ["",
   description,
   "",
   "positional arguments:",
   "  \x7bexport,rules\x7d",
   "    export        Render the analysis report as JSON or Markdown.",
   "    rules         List the compiled-in rules in evaluation order.",
   "",
   "options:",
   "  -h, --help      show this help message and exit",
   "  --version       show program's version number and exit",
   "  -v, --verbose   Log analysis progress to stderr."]

/-- How a source is looked at. -/
def inspectUsage : List String :=
  ["usage: smell-audit [-h] [--version] [-v] [--filename FILENAME] [--json] path"]

/-- The help of looking at a source. -/
def inspectHelp : List String := inspectUsage ++
  ["",
   description,
   "",
   "positional arguments:",
   "  path                 TypeScript file (.ts/.tsx) to analyze, or '-' to read",
   "                       stdin.",
   "",
   "options:",
   "  -h, --help           show this help message and exit",
   "  --version            show program's version number and exit",
   "  -v, --verbose        Log analysis progress to stderr.",
   "  --filename FILENAME  Filename hint for stdin input (selects the .tsx",
   "                       grammar).",
   "  --json               Print the full report JSON to stdout."]

/-- How a report is exported. -/
def renderUsage : List String :=
  ["usage: smell-audit export [-h] [--filename FILENAME]",
   "                          [--format \x7bjson,markdown\x7d] [--output OUTPUT]",
   "                          path"]

/-- The help of exporting. -/
def renderHelp : List String := renderUsage ++
  ["",
   "positional arguments:",
   "  path                  TypeScript file (.ts/.tsx) to analyze, or '-' to read",
   "                        stdin.",
   "",
   "options:",
   "  -h, --help            show this help message and exit",
   "  --filename FILENAME   Filename hint for stdin input (selects the .tsx",
   "                        grammar).",
   "  --format \x7bjson,markdown\x7d",
   "                        Output format (default: markdown).",
   "  --output OUTPUT, -o OUTPUT",
   "                        Write to FILE instead of stdout."]

/-- How rules are listed. -/
def rulesUsage : List String := ["usage: smell-audit rules [-h] [--json]"]

/-- The help of listing rules. -/
def rulesHelp : List String := rulesUsage ++
  ["",
   "options:",
   "  -h, --help  show this help message and exit",
   "  --json      Print the rule catalogue as JSON."]

/-! ## Options -/

def helpFlag (help : List String) : Flag Draft := ⟨["-h", "--help"], .answer (linesText help)⟩

def versionFlag : Flag Draft :=
  ⟨["--version"], .answer (linesText [programName ++ " " ++ toolVersion])⟩

def verboseFlag : Flag Draft := ⟨["-v", "--verbose"], .switch fun d => { d with verbose := true }⟩

def filenameFlag : Flag Draft :=
  ⟨["--filename"], .value [] fun name d => { d with filename := some name }⟩

def jsonFlag : Flag Draft := ⟨["--json"], .switch fun d => { d with json := true }⟩

def formatFlag : Flag Draft :=
  ⟨["--format"], .value ExportFormat.names fun name d =>
    { d with format := (ExportFormat.ofName? name).getD d.format }⟩

def outputFlag : Flag Draft :=
  ⟨["--output", "-o"], .value [] fun text d => { d with output := some (Path.ofText text) }⟩

def targetOperand : Operand Draft := .single "path" fun text d => { d with target := text }

/-! ## Interfaces -/

/-- What looking at a source can be given. -/
def inspectInterface : Interface Draft where
  program := programName
  usage := linesText inspectUsage
  flags := [helpFlag inspectHelp, versionFlag, verboseFlag, filenameFlag, jsonFlag]
  operand := targetOperand

/-- What exporting can be given. -/
def renderInterface : Interface Draft where
  program := programName ++ " export"
  usage := linesText renderUsage
  flags := [helpFlag renderHelp, filenameFlag, formatFlag, outputFlag]
  operand := targetOperand

/-- What listing rules can be given. -/
def rulesInterface : Interface Draft where
  program := programName ++ " rules"
  usage := linesText rulesUsage
  flags := [helpFlag rulesHelp, jsonFlag]
  operand := .none

/-- The names of the commands. -/
def commandNames : List String := ["export", "rules"]

/-- Reads the arguments of a command. -/
def readCommand (name : String) (arguments : List String) (d : Draft) :
    Except Stop (Draft × List String) :=
  let interface := if name = "rules" then rulesInterface else renderInterface
  interface.read arguments { d with command := some name }

/-- The interface with commands. -/
def commandInterface : Interface Draft where
  program := programName
  usage := linesText commandUsage
  flags := [helpFlag commandHelp, versionFlag, verboseFlag]
  operand := .command "command" commandNames readCommand

/-! ## Invocations -/

/-- The first argument that does not look like an option. A single hyphen does not. -/
def firstOperand? (arguments : List String) : Option String :=
  arguments.find? fun a => a.toList.head? ≠ some '-' || a = "-"

/-- The arguments name a source to look at. -/
def namesSource (arguments : List String) : Bool :=
  match firstOperand? arguments with
  | some first => !first.isEmpty && !commandNames.contains first
  | none => false

/-- The command of a draft. -/
def Draft.commandGiven (d : Draft) : Command :=
  match d.command with
  | none => .idle
  | some name =>
    if name = "rules" then .listRules d.json else .render d.target d.filename d.format d.output

/-- Reads a command line. -/
def Invocation.read (arguments : List String) : Except Stop Invocation :=
  if namesSource arguments then
    (inspectInterface.readAll arguments {}).map fun d =>
      ⟨d.verbose, .inspect d.target d.filename d.json⟩
  else
    (commandInterface.readAll arguments {}).map fun d => ⟨d.verbose, d.commandGiven⟩

end CodeSmell.CommandLine
