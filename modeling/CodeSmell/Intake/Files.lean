/-
Files.

Whatever reads and writes files does so through four operations, so that the same
program runs on the files of a machine and on files that are only described. The
described ones are a list of files and folders by their paths. Looking up a path
goes down part by part, and each part says whether it may be gone through.
-/
import CodeSmell.Intake.Path
import CodeSmell.Text.Quoted

set_option autoImplicit false

namespace CodeSmell

/-- Why the machine failed. -/
inductive FileFault where
  | missing
  | occupied
  | notFolder
  | isFolder
  | denied
  | nameTooLong
  /-- The path holds the character zero, so that the machine is not asked. -/
  | zeroInPath
  /-- Any other error of the machine, by its number and in its words. -/
  | other (number : Nat) (text : String)
  deriving DecidableEq, Repr

namespace FileFault

/-- The errors of the machine that are told apart. -/
def known : List FileFault := [missing, occupied, notFolder, isFolder, denied, nameTooLong]

/-- The number of the fault. -/
def code : FileFault → Nat
  | missing => 2
  | denied => 13
  | occupied => 17
  | notFolder => 20
  | isFolder => 21
  | zeroInPath => 22
  | nameTooLong => 36
  | other number _ => number

/-- The fault in words. -/
def phrase : FileFault → String
  | missing => "No such file or directory"
  | denied => "Permission denied"
  | occupied => "File exists"
  | notFolder => "Not a directory"
  | isFolder => "Is a directory"
  | nameTooLong => "File name too long"
  | zeroInPath => "embedded null byte"
  | other _ text => text

/-- The fault for an error of the machine. -/
def ofNumber (number : Nat) (text : String) : FileFault :=
  (known.find? fun fault => fault.code = number).getD (other number text)

end FileFault

/-- An operation that failed: on a path, or on the standard input. -/
structure FileError where
  fault : FileFault
  path : Option Path
  deriving DecidableEq, Repr

/-- The wording of the error. -/
def FileError.message (e : FileError) : String :=
  if e.fault = .zeroInPath then e.fault.phrase
  else
    s!"[Errno {e.fault.code}] {e.fault.phrase}"
      ++ (e.path.map fun p => ": " ++ Text.quoted p.text).getD ""

/-- The operations on files. -/
structure Disk (m : Type → Type) where
  /-- The size of a file or folder, in bytes. -/
  size : Path → m (Except FileError Nat)
  /-- The bytes of a file. -/
  read : Path → m (Except FileError ByteArray)
  /-- Makes a folder, and those it stands in, unless it is there. -/
  makeFolder : Path → m (Except FileError Unit)
  /-- Writes a file anew. -/
  write : Path → ByteArray → m (Except FileError Unit)

/-! ## Described files -/

/-- What stands at a path. -/
inductive FileEntry where
  | file (bytes : ByteArray)
  | folder

/-- Files and folders, by the parts of their paths. -/
abbrev FileStore := List (List String × FileEntry)

namespace FileStore

/-- What stands at exactly these parts. A path that leads to something is a folder. -/
def entry? (s : FileStore) (parts : List String) : Option FileEntry :=
  match s.lookup parts with
  | some e => some e
  | none =>
    if parts.isEmpty || s.any fun (p, _) => parts.isPrefixOf p then some .folder else none

/-- The most bytes of a part of a path. -/
def nameLimit : Nat := 255

/-- What stands at `part` in the folder at `here`, with its place. Nothing is known of
what is outside. -/
def step (s : FileStore) (here : List String) (part : String) :
    Except FileFault (List String × Option FileEntry) :=
  if part = ".." then
    if here.isEmpty then .error .missing else .ok (here.dropLast, some .folder)
  else if nameLimit < part.utf8ByteSize then .error .nameTooLong
  else .ok (here ++ [part], s.entry? (here ++ [part]))

/-- Goes down from the folder at `here`, part by part. Yields the place and what stands
there, which may be nothing yet for the last part. -/
def descend (s : FileStore) (here : List String) :
    List String → Except FileFault (List String × Option FileEntry)
  | [] => .ok (here, s.entry? here)
  | part :: rest => do
    match ← s.step here part with
    | (place, some .folder) => s.descend place rest
    | (place, some (.file bytes)) =>
      -- A file stands only at the end of a path.
      if rest.isEmpty then return (place, some (.file bytes)) else .error .notFolder
    | (place, none) => if rest.isEmpty then return (place, none) else .error .missing

/-- A path that the store knows its way along: without the character zero, and not from
the root of the machine. -/
def checkPath (p : Path) : Except FileFault Unit :=
  if p.holdsZero then .error .zeroInPath
  else if p.root.isEmpty then .ok ()
  else .error .missing

/-- What stands at a path. -/
def locate (s : FileStore) (p : Path) : Except FileFault (List String × Option FileEntry) := do
  checkPath p
  s.descend [] p.parts

/-- The size of a folder. -/
def folderSize : Nat := 4096

/-- The size of what stands at a path. -/
def size (s : FileStore) (p : Path) : Except FileError Nat :=
  match s.locate p with
  | .error fault => .error ⟨fault, p⟩
  | .ok (_, none) => .error ⟨.missing, p⟩
  | .ok (_, some .folder) => .ok folderSize
  | .ok (_, some (.file bytes)) => .ok bytes.size

/-- The bytes of the file at a path. -/
def read (s : FileStore) (p : Path) : Except FileError ByteArray :=
  match s.locate p with
  | .error fault => .error ⟨fault, p⟩
  | .ok (_, none) => .error ⟨.missing, p⟩
  | .ok (_, some .folder) => .error ⟨.isFolder, p⟩
  | .ok (_, some (.file bytes)) => .ok bytes

/-- Puts an entry at its parts, in place of what is there. -/
def put (s : FileStore) (parts : List String) (e : FileEntry) : FileStore :=
  match s with
  | [] => [(parts, e)]
  | (p, old) :: rest => if p = parts then (p, e) :: rest else (p, old) :: put rest parts e

/-- Makes the folders of a path, from the outermost on; the one at `here` stands
already. -/
def makeFolders (s : FileStore) (here : List String) : List String → Except FileFault FileStore
  | [] => .ok s
  | part :: rest => do
    match ← s.step here part with
    | (place, some .folder) => makeFolders s place rest
    | (_, some (.file _)) => .error (if rest.isEmpty then .occupied else .notFolder)
    | (place, none) => makeFolders (s.put place .folder) place rest

/-- Makes a folder and those it stands in. -/
def makeFolder (s : FileStore) (p : Path) : Except FileError FileStore :=
  (checkPath p *> s.makeFolders [] p.parts).mapError fun fault => ⟨fault, p⟩

/-- Writes a file. -/
def write (s : FileStore) (p : Path) (bytes : ByteArray) : Except FileError FileStore :=
  match s.locate p with
  | .error fault => .error ⟨fault, p⟩
  | .ok (_, some .folder) => .error ⟨.isFolder, p⟩
  | .ok (place, _) => .ok (s.put place (.file bytes))

/-- Keeps what a change leaves, if it succeeds. -/
def change (f : FileStore → Except FileError FileStore) :
    StateM FileStore (Except FileError Unit) :=
  fun s =>
    match f s with
    | .ok s' => (.ok (), s')
    | .error e => (.error e, s)

/-- The operations on described files. -/
def disk : Disk (StateM FileStore) where
  size p := fun s => (s.size p, s)
  read p := fun s => (s.read p, s)
  makeFolder p := change fun s => s.makeFolder p
  write p bytes := change fun s => s.write p bytes

end FileStore

end CodeSmell
