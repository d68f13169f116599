/-!
# Log

Messages with a severity and optional details. A log level lets the messages of its severity and
above through, or none.
-/
namespace NativeBindings

inductive Severity where
  | debug | info | warn | error
  deriving DecidableEq, Repr, Inhabited

def Severity.text : Severity → String
  | .debug => "debug"
  | .info => "info"
  | .warn => "warn"
  | .error => "error"

def Severity.ofText? (text : String) : Option Severity :=
  [Severity.debug, .info, .warn, .error].find? (·.text == text)

def Severity.rank : Severity → Nat
  | .debug => 0
  | .info => 1
  | .warn => 2
  | .error => 3

/-- The messages of a severity and above are shown, or none. -/
inductive LogLevel where
  | atLeast (severity : Severity)
  | silent
  deriving DecidableEq, Repr, Inhabited

def LogLevel.text : LogLevel → String
  | .atLeast severity => severity.text
  | .silent => "silent"

def LogLevel.ofText? (text : String) : Option LogLevel :=
  if text = "silent" then some .silent else (Severity.ofText? text).map .atLeast

def LogLevel.shows : LogLevel → Severity → Bool
  | .atLeast least, severity => least.rank ≤ severity.rank
  | .silent, _ => false

/-- The level that holds when none is chosen. -/
def LogLevel.standard : LogLevel := .atLeast .info

/-- A message, with details of type `μ`. -/
structure LogEntry (μ : Type) where
  severity : Severity
  message : String
  details : Option μ := none
  deriving DecidableEq, Repr, Inhabited

def standardTag : String := "wirebind"

def LogEntry.line {μ : Type} (entry : LogEntry μ) (tag : String) : String :=
  s!"[{tag}] {entry.severity.text}: {entry.message}"

/-- The lines that a console shows at a level (`createConsoleLogger`). -/
def shownLines {μ : Type} (tag : String) (level : LogLevel) (entries : List (LogEntry μ)) :
    List (String × Option μ) :=
  (entries.filter (level.shows ·.severity)).map fun entry => (entry.line tag, entry.details)

end NativeBindings
