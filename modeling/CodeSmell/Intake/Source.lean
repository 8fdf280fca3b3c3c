/-
Reading the source in a file.

A file is refused by its name before it is looked for, by its size before it is
opened, and by its bytes last.
-/
import CodeSmell.Intake.Encoding
import CodeSmell.Intake.Files
import CodeSmell.Intake.Limits

set_option autoImplicit false

namespace CodeSmell

/-- Why there is no source. -/
inductive SourceError where
  | refused (error : IntakeError)
  | unreadable (error : FileError)
  | undecodable (error : DecodeError)
  deriving DecidableEq, Repr

/-- The wording of the error. -/
def SourceError.message : SourceError → String
  | refused e => e.message
  | unreadable e => e.message
  | undecodable e => e.message

namespace Disk

variable {m : Type → Type} [Monad m]

/-- An outcome that is known without touching a file. -/
def known {ε α : Type} (outcome : Except ε α) : ExceptT ε m α := ExceptT.mk (pure outcome)

/-- The size of a file, if it is not refused by its name or its size. -/
def acceptedSize (d : Disk m) (l : IntakeLimits) (p : Path) : ExceptT SourceError m Nat := do
  known ((l.checkName p.name).mapError SourceError.refused)
  let found ← d.size p
  let size ← known (found.mapError SourceError.unreadable)
  known ((l.checkSize size).mapError SourceError.refused)
  return size

/-- The text of a file. -/
def text (d : Disk m) (encoding : String) (p : Path) : ExceptT SourceError m String := do
  let found ← d.read p
  let bytes ← known (found.mapError SourceError.unreadable)
  known ((Encoding.text encoding bytes.toList).mapError SourceError.undecodable)

/-- The source in a file. -/
def source (d : Disk m) (l : IntakeLimits) (p : Path) : ExceptT SourceError m String := do
  let _ ← d.acceptedSize l p
  d.text l.encoding p

end Disk

end CodeSmell
