/-
The command line of the tool.

This is the only module that touches the machine: it gives the tool the files and
the standard input, and passes on what it puts out and the status it ends with.
-/
import CodeSmell.CommandLine.Run
import CodeSmell.Grammar.Program

set_option autoImplicit false

namespace CodeSmell.CommandLine

/-- The number of an error of the machine, and the error in words. -/
def machineError : IO.Error → Nat × String
  | .alreadyExists _ code text | .noFileOrDirectory _ code text | .invalidArgument _ code text
  | .permissionDenied _ code text | .resourceExhausted _ code text
  | .inappropriateType _ code text | .noSuchThing _ code text | .interrupted _ code text
  | .otherError code text | .resourceBusy code text | .resourceVanished code text
  | .unsupportedOperation code text | .hardwareFault code text
  | .unsatisfiedConstraints code text | .illegalOperation code text | .protocolError code text
  | .timeExpired code text => (code.toNat, text)
  | .unexpectedEof => (0, "unexpected end of file")
  | .userError text => (0, text)

/-- The outcome of an operation, on a path or on the standard input. -/
def outcomeOf {α : Type} (path : Option Path) (operation : IO α) : IO (Except FileError α) := do
  match ← operation.toBaseIO with
  | .ok a => return .ok a
  | .error e =>
    let (number, text) := machineError e
    return .error ⟨.ofNumber number text, path⟩

/-- The outcome of an operation on a path, if the machine can be asked about the path. -/
def onPath {α : Type} (p : Path) (operation : IO α) : IO (Except FileError α) :=
  if p.holdsZero then return .error ⟨.zeroInPath, p⟩ else outcomeOf p operation

/-- The files of the machine. -/
def machineDisk : Disk IO where
  size p := onPath p do return (← IO.FS.readBinFile p.text).size
  read p := onPath p (IO.FS.readBinFile p.text)
  makeFolder p := onPath p (IO.FS.createDirAll p.text)
  write p bytes := onPath p (IO.FS.writeBinFile p.text bytes)

/-- All bytes of a stream, behind those that were read already. -/
partial def readAll (stream : IO.FS.Stream) (before : ByteArray) : IO ByteArray := do
  let chunk ← stream.read 65536
  if chunk.isEmpty then return before else readAll stream (before ++ chunk)

/-- The world of the machine. -/
def machine : World IO where
  disk := machineDisk
  input := outcomeOf none do readAll (← IO.getStdin) ByteArray.empty
  parser := SourceParser.grammar

end CodeSmell.CommandLine

open CodeSmell.CommandLine in
/-- Runs the tool. -/
def main (arguments : List String) : IO UInt32 := do
  let outcome ← run machine arguments
  IO.print outcome.output
  IO.eprint outcome.errors
  match outcome.ending with
  | .ok status => return UInt32.ofNat status.code
  | .error escape =>
    IO.eprintln escape.message
    return 1
