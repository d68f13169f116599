import NativeBindings.Data.Value
import NativeBindings.Fault
import NativeBindings.Log
import NativeBindings.Text

/-!
# Options

The options of a generation and of the command line, read from a record of any values. Options that
are missing have defaults, options that are unknown are ignored, and everything that is wrong is
reported at once, in the order of the options.
-/
namespace NativeBindings

/-- The options of a generation: the module that supplies the runtime's names, and the name that the
banner shows. -/
structure GeneratorOptions where
  runtimeModule : String := ".lib"
  generatorName : String := "wirebind"
  deriving DecidableEq, Repr, Inhabited

/-- The options of the command line. Without a path, a built-in schema is read, and the standard
output is written to. -/
structure CommandOptions extends GeneratorOptions where
  protocolPath : Option String := none
  domainPath : Option String := none
  outPath : Option String := none
  logLevel : LogLevel := .standard
  deriving DecidableEq, Repr, Inhabited

/-- What reading a part of a record gives: a result, and what is wrong. -/
abbrev OptionReader (α : Type) := α × List OptionIssue

namespace OptionReader

/-- A text option that must pass a check, which names what is wrong. -/
def text (input : Value) (name : String) (check : String → List OptionIssue) :
    OptionReader (Option String) :=
  match input.get? name with
  | none => (none, [])
  | some (.text s) => (some s, check s)
  | some other => (none, [.notText name other.typeName])

def path (input : Value) (name : String) : OptionReader (Option String) :=
  text input name fun s => if s.isEmpty then [.empty name] else []

def level (input : Value) (name : String) : OptionReader (Option LogLevel) :=
  match input.get? name with
  | none => (none, [])
  | some (.text s) => match LogLevel.ofText? s with
    | some level => (some level, [])
    | none => (none, [.notALevel name s])
  | some other => (none, [.levelNotText name other.typeName])

/-- A line end, which may not stand in a banner. -/
def breaksLine (c : Char) : Bool := c == '\n' || c == '\r'

def generator (input : Value) : OptionReader GeneratorOptions :=
  let (runtimeModule, issues) := text input "runtimeModule" fun s =>
    if Text.isModulePath s then [] else [.notAModulePath "runtimeModule"]
  let (generatorName, issues') := text input "generatorName" fun s =>
    (if s.isEmpty then [.empty "generatorName"] else []) ++
      (if s.isEmpty || s.toList.any breaksLine then [.notOneLine "generatorName"] else [])
  let standard : GeneratorOptions := {}
  ({ runtimeModule := runtimeModule.getD standard.runtimeModule
     generatorName := generatorName.getD standard.generatorName }, issues ++ issues')

def command (input : Value) : OptionReader CommandOptions :=
  let (options, issues) := generator input
  let (protocolPath, protocolIssues) := path input "protocolPath"
  let (domainPath, domainIssues) := path input "domainPath"
  let (outPath, outIssues) := path input "outPath"
  let (logLevel, levelIssues) := level input "logLevel"
  ({ options with protocolPath, domainPath, outPath, logLevel := logLevel.getD .standard },
    issues ++ protocolIssues ++ domainIssues ++ outIssues ++ levelIssues)

/-- Reads a record: everything that is wrong is one fault, and only records can be read. -/
def run {α : Type} (reader : Value → OptionReader α) (what : String) (input : Value) :
    Except Fault α :=
  match input with
  | .map _ =>
    let (options, issues) := reader input
    if issues.isEmpty then .ok options else .error (.invalidOptions what issues)
  | other => .error (.invalidOptions what [.notARecord other.typeName])

end OptionReader

/-- No options at all are the defaults (`resolveGeneratorOptions`). -/
def GeneratorOptions.resolve (input : Option Value) : Except Fault GeneratorOptions :=
  OptionReader.run .generator "generator options" (input.getD (.map []))

/-- There must be a record (`resolveCliOptions`). -/
def CommandOptions.resolve (input : Option Value) : Except Fault CommandOptions :=
  match input with
  | none => .error (.invalidOptions "command line options" [.missing])
  | some input => OptionReader.run .command "command line options" input

end NativeBindings
