import NativeBindings.Command.FileTree
import NativeBindings.Data.Value
import NativeBindings.Document.Decode
import NativeBindings.Module.Generate
import NativeBindings.Shipped

/-!
# The command line

Arguments choose two documents and where the generated module goes. A run reads the documents,
composes them, generates the module and writes it, to a file or to the standard output. Whatever
goes wrong ends the run with one error in the log and without output.
-/
namespace NativeBindings

/-!
## Arguments

Arguments come in pairs of a flag and a value (`parseArgs`). They are read into a record of options,
in which a flag that is repeated counts with its last value. The first argument that is out of place
ends the reading.
-/

inductive Flag where
  | protocol | domain | out | runtimeModule | logLevel
  deriving DecidableEq, Repr, Inhabited

namespace Flag

def all : List Flag := [protocol, domain, out, runtimeModule, logLevel]

def text : Flag → String
  | protocol => "--protocol"
  | domain => "--domain"
  | out => "--out"
  | runtimeModule => "--runtime-module"
  | logLevel => "--log-level"

/-- The option that a flag sets. -/
def option : Flag → String
  | protocol => "protocolPath"
  | domain => "domainPath"
  | out => "outPath"
  | runtimeModule => "runtimeModule"
  | logLevel => "logLevel"

def ofText? (argument : String) : Option Flag := all.find? (·.text == argument)

end Flag

namespace Arguments

/-- A value may not be empty or look like a flag (`requireValue`). -/
def isValue (argument : String) : Bool :=
  !argument.isEmpty && argument.toList.take 2 != ['-', '-']

def readPairs (options : List (String × Value)) :
    List String → Except Fault (List (String × Value))
  | [] => .ok options
  | [argument] => match Flag.ofText? argument with
    | some _ => .error (.missingArgumentValue argument)
    | none => .error (.unknownArgument argument)
  | argument :: value :: rest => match Flag.ofText? argument with
    | some flag =>
      if isValue value then readPairs (Value.insert options flag.option (.text value)) rest
      else .error (.missingArgumentValue argument)
    | none => .error (.unknownArgument argument)

/-- The options that arguments set. -/
def parse (arguments : List String) : Except Fault Value := Value.map <$> readPairs [] arguments

end Arguments

/-! ## Runs -/

/-- The text of the module of two documents that are given as texts. -/
def generateFromDocuments (protocol domain : String) (options : GeneratorOptions) :
    Logged String := do
  let protocol ← Composition.generate.liftExcept (Document.parse protocol)
  let domain ← Composition.generate.liftExcept (Document.parse domain)
  let composition ← Composition.generate.liftExcept (Composition.compose protocol domain)
  return (← composition.generate options).text

namespace Command

abbrev Message := LogEntry (List (String × Detail))

/-- The code of a fault is the first detail, if it has one. -/
def faultMessage (fault : Fault) : Message :=
  { severity := .error, message := fault.message
    details := fault.category.code?.map fun code => ("code", .text code) :: fault.details }

def diskMessage (e : DiskError) : Message := { severity := .error, message := e.message }

/-- How a run ended: `output` is what was written to the standard output, and `level` the level at
which the console shows the log. -/
structure Outcome where
  succeeded : Bool
  output : String := ""
  level : LogLevel := .standard
  log : List Message
  deriving Inhabited

def Outcome.exitCode (outcome : Outcome) : Nat := if outcome.succeeded then 0 else 1

def Outcome.failure (level : LogLevel) (log : List Message) (error : Message) : Outcome :=
  { succeeded := false, level, log := log ++ [error] }

variable {m : Type → Type} [Monad m] (disk : Disk m)

/-- The text of a document: of the file at the path, or of a built-in schema without one
(`readProtocol`, `readDomain`). -/
def readDocument (path : Option String) (schema : BuiltinSchema) : m (Except DiskError String) :=
  match path with
  | none => disk.readBuiltin schema
  | some path => disk.read path

/-- Both documents are read before either is looked at. -/
def readDocuments (options : CommandOptions) : m (Except DiskError (String × String)) := do
  match ← readDocument disk options.protocolPath .protocol with
  | .error e => return .error e
  | .ok protocol =>
    match ← readDocument disk options.domainPath .domain with
    | .error e => return .error e
    | .ok domain => return .ok (protocol, domain)

/-- Puts the generated text where it belongs. -/
def deliver (options : CommandOptions) (log : List Message) (text : String) : m Outcome :=
  match options.outPath with
  | none => pure { succeeded := true, output := text, level := options.logLevel, log }
  | some path => do
    match ← disk.replaceFile path text with
    | .error e => return .failure options.logLevel log (diskMessage e)
    | .ok () =>
      return { succeeded := true, level := options.logLevel
               log := log ++ [{ severity := .info, message := s!"Wrote {path}" }] }

def runWith (options : CommandOptions) : m Outcome := do
  match ← readDocuments disk options with
  | .error e => return .failure options.logLevel [] (diskMessage e)
  | .ok (protocol, domain) =>
    match (generateFromDocuments protocol domain options.toGeneratorOptions).runLog with
    | (.error fault, log) => return .failure options.logLevel log (faultMessage fault)
    | (.ok text, log) => deliver disk options log text

/-- One run of the program (`runCli`). -/
def run (arguments : List String) : m Outcome :=
  match Arguments.parse arguments >>= fun options => CommandOptions.resolve (some options) with
  | .error fault => pure (.failure .standard [] (faultMessage fault))
  | .ok options => runWith disk options

end Command
end NativeBindings
