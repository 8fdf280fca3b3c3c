/-
Data: whatever can be written out as canonical text.

Beside the values of JSON these are the values that reports are made of, whole
reports, and tuples, paths, bytes and maps with keys of any kind. Writing one out
means turning it into JSON first: a grade or a variant into its text, a status
into its number, a path or bytes into the text that shows them, a tuple into an
array, and a map into an object whose keys are the texts of the map's keys. Where
two keys of a map have one text, the later value stands.
-/
import CodeSmell.ExitStatus
import CodeSmell.Intake.Limits
import CodeSmell.Intake.Path
import CodeSmell.Json.Printer
import CodeSmell.Report.Basic

set_option autoImplicit false

namespace CodeSmell

/-- A value that can be written out. -/
inductive Datum where
  | null
  | bool (b : Bool)
  | int (n : Int)
  | float (x : Binary64)
  | text (s : String)
  | severity (s : Severity)
  | variant (v : Variant)
  | status (s : ExitStatus)
  | path (p : Path)
  | bytes (bs : List UInt8)
  | finding (f : Finding)
  | diagnostic (d : Diagnostic)
  | report (r : Report)
  | limits (l : IntakeLimits)
  | list (items : List Datum)
  | tuple (items : List Datum)
  | map (entries : List (Datum × Datum))
  deriving Inhabited

namespace Datum

/-! ## Data as messages show them -/

/-- Named parts behind the name of the whole. -/
def shownRecord (name : String) (parts : List (String × String)) : String :=
  name ++ "(" ++ ", ".intercalate (parts.map fun (k, v) => k ++ "=" ++ v) ++ ")"

/-- A member of an enumeration, with its value. -/
def shownMember (enumeration member value : String) : String :=
  "<" ++ enumeration ++ "." ++ member ++ ": " ++ value ++ ">"

/-- The variant in capitals. -/
def variantCapitals : Variant → String
  | .typescript => "TYPESCRIPT"
  | .tsx => "TSX"

def shownSeverity (s : Severity) : String :=
  shownMember "Severity" s.capitals (Text.quoted s.text)

def shownVariant (v : Variant) : String :=
  shownMember "SyntaxVariant" (variantCapitals v) (Text.quoted v.text)

def shownStatus (s : ExitStatus) : String := shownMember "ExitCode" s.capitals (toString s.code)

def shownFinding (f : Finding) : String :=
  shownRecord "Finding"
    [("id", Text.quoted f.id), ("name", Text.quoted f.name),
     ("description", Text.quoted f.description), ("line", integerText f.line),
     ("message", Text.quoted f.message), ("severity", shownSeverity f.severity)]

def shownDiagnostic (d : Diagnostic) : String :=
  shownRecord "Diagnostic"
    [("rule_id", Text.quoted d.ruleId), ("node_type", Text.quoted d.nodeKind),
     ("line", integerText d.line), ("error", Text.quoted d.error)]

/-- Shown values between brackets. -/
def shownList (items : List String) : String := "[" ++ ", ".intercalate items ++ "]"

/-- Shown values between parentheses; a single one has a comma behind it. -/
def shownTuple (items : List String) : String :=
  match items with
  | [one] => "(" ++ one ++ ",)"
  | _ => "(" ++ ", ".intercalate items ++ ")"

def shownReport (r : Report) : String :=
  shownRecord "AnalysisReport"
    [("findings", shownList (r.findings.map shownFinding)), ("variant", shownVariant r.variant),
     ("filename", match r.filename with | some f => Text.quoted f | none => "None"),
     ("total_lines", integerText r.totalLines),
     ("diagnostics", shownList (r.diagnostics.map shownDiagnostic)),
     ("tool_version", Text.quoted r.version)]

def shownLimits (l : IntakeLimits) : String :=
  shownRecord "IntakeConfig"
    [("max_source_bytes", integerText l.maxBytes),
     ("allowed_suffixes", shownTuple (l.suffixes.map Text.quoted)),
     ("encoding", Text.quoted l.encoding)]

mutual
/-- A value as messages show it. -/
def shown : Datum → String
  | null => "None"
  | bool b => if b then "True" else "False"
  | int n => integerText n
  | float x => Numeral.write Numeral.message x
  | text s => Text.quoted s
  | severity s => shownSeverity s
  | variant v => shownVariant v
  | status s => shownStatus s
  | path p => "PurePosixPath(" ++ Text.quoted p.text ++ ")"
  | bytes bs => Text.quotedBytes bs
  | finding f => shownFinding f
  | diagnostic d => shownDiagnostic d
  | report r => shownReport r
  | limits l => shownLimits l
  | list items => shownList (shownItems items)
  | tuple items => shownTuple (shownItems items)
  | map entries => "\x7b" ++ ", ".intercalate (shownEntries entries) ++ "\x7d"

/-- The elements of a list or tuple. -/
def shownItems : List Datum → List String
  | [] => []
  | d :: rest => shown d :: shownItems rest

/-- The entries of a map. -/
def shownEntries : List (Datum × Datum) → List String
  | [] => []
  | (k, v) :: rest => (shown k ++ ": " ++ shown v) :: shownEntries rest
end

/-- The text of a value that stands on its own, also as a key: text is not quoted, a
member of an enumeration is its name, a status its number, a path is as written. -/
def display : Datum → String
  | text s => s
  | severity s => "Severity." ++ s.capitals
  | variant v => "SyntaxVariant." ++ variantCapitals v
  | status s => toString s.code
  | path p => p.text
  | d => shown d

/-! ## Canonical text -/

/-- Limits as a JSON object. -/
def limitsJson (l : IntakeLimits) : Json :=
  .obj
    [("max_source_bytes", .int l.maxBytes),
     ("allowed_suffixes", .arr (l.suffixes.map Json.str)),
     ("encoding", .str l.encoding)]

mutual
/-- A value as JSON. -/
def toJson : Datum → Json
  | null => .null
  | bool b => .bool b
  | int n => .int n
  | float x => .float x
  | text s => .str s
  | severity s => .str s.text
  | variant v => .str v.text
  | status s => .int s.code
  | path p => .str p.text
  | bytes bs => .str (Text.quotedBytes bs)
  | finding f => f.toJson
  | diagnostic d => d.toJson
  | report r => r.toJson
  | limits l => limitsJson l
  | list items => .arr (itemsJson items)
  | tuple items => .arr (itemsJson items)
  | map entries => .obj (entriesJson [] entries)

/-- The elements of a list or tuple. -/
def itemsJson : List Datum → List Json
  | [] => []
  | d :: rest => toJson d :: itemsJson rest

/-- The entries of a map, put into fields. -/
def entriesJson (fields : List (String × Json)) : List (Datum × Datum) → List (String × Json)
  | [] => fields
  | (k, v) :: rest => entriesJson (Json.put k.display (toJson v) fields) rest
end

/-- The canonical text of a value. -/
def canonical (indent : Option Nat) (d : Datum) : String := d.toJson.render indent

end Datum

end CodeSmell
