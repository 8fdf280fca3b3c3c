/-
The settings of the service.

Every setting has a value that is built in, and a variable of the environment
that overrides it. A variable is always text: a switch is on for three words, an
integer is read as one, and a list is what stands between commas, trimmed, with
nothing kept for a piece that is blank. So no list of endings that comes from the
environment holds the empty ending.
-/
import CodeSmell.Intake.Limits
import CodeSmell.Number.Reading
import CodeSmell.Text.Line

set_option autoImplicit false

namespace CodeSmell

/-- The settings of the service. -/
structure Settings where
  host : String := "0.0.0.0"
  port : Int := 8000
  debug : Bool := false
  environment : String := "development"
  logLevel : String := "INFO"
  corsOrigins : List String := ["*"]
  maxSourceBytes : Int := 1024 * 1024
  allowedSuffixes : List String := [".ts", ".tsx"]
  deriving DecidableEq, Repr

/-- A setting, without its value. -/
inductive Setting where
  | host
  | port
  | debug
  | environment
  | logLevel
  | corsOrigins
  | maxSourceBytes
  | allowedSuffixes
  deriving DecidableEq, Repr

namespace Setting

/-- All settings, in the order in which they are read. -/
def all : List Setting :=
  [host, port, debug, environment, logLevel, corsOrigins, maxSourceBytes, allowedSuffixes]

/-- The variable of a setting. -/
def variableName : Setting → String
  | host => "HOST"
  | port => "PORT"
  | debug => "DEBUG"
  | environment => "ENVIRONMENT"
  | logLevel => "LOG_LEVEL"
  | corsOrigins => "CORS_ORIGINS"
  | maxSourceBytes => "MAX_SOURCE_BYTES"
  | allowedSuffixes => "ALLOWED_SUFFIXES"

/-- Reads a switch. -/
def readSwitch (text : String) : Bool := ["true", "1", "yes"].contains (Text.lower text)

/-- Reads a list. -/
def readList (text : String) : List String :=
  ((Text.splitAt ',' text.toList).map fun piece => Text.trim (String.ofList piece)).filter
    fun item => !item.isEmpty

end Setting

namespace Settings

/-- The settings with one of them read from a text. -/
def set (s : Settings) (setting : Setting) (text : String) : Except NumeralError Settings :=
  match setting with
  | .host => .ok { s with host := text }
  | .port => return { s with port := ← Reading.integer text }
  | .debug => .ok { s with debug := Setting.readSwitch text }
  | .environment => .ok { s with environment := text }
  | .logLevel => .ok { s with logLevel := text }
  | .corsOrigins => .ok { s with corsOrigins := Setting.readList text }
  | .maxSourceBytes => return { s with maxSourceBytes := ← Reading.integer text }
  | .allowedSuffixes => .ok { s with allowedSuffixes := Setting.readList text }

/-- The settings with those that the environment has a variable for read from it, or
the first error in the order of the settings. -/
def override (s : Settings) (environment : List (String × String)) : Except NumeralError Settings :=
  Setting.all.foldlM
    (fun s setting =>
      match environment.lookup setting.variableName with
      | some text => s.set setting text
      | none => .ok s) s

/-- The limits on sources. -/
def intake (s : Settings) : IntakeLimits :=
  { maxBytes := s.maxSourceBytes, suffixes := s.allowedSuffixes }

end Settings

end CodeSmell
