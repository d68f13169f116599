import NativeBindings.Document.Composition
import NativeBindings.Log
import NativeBindings.Module.EntryPoints
import NativeBindings.Module.EnumClass
import NativeBindings.Module.Method
import NativeBindings.Module.StructBinding
import NativeBindings.Options
import NativeBindings.Text

/-!
# Generation

The module of a composition as a value, its text, and how it is generated.
-/
namespace NativeBindings

/-!
## The generated module

The module as a value: what it defines, in the order in which it defines it. Its text is the text
of its blocks, without the blanks at the end and with one line end.
-/

/-- What gives a mapped name its meaning outside of structs. -/
inductive Definition where
  | enumClass (definition : EnumClass)
  | alias (name : String) (type : Ctype)
  deriving DecidableEq, Repr, Inhabited

def Definition.name : Definition → String
  | .enumClass c => c.name
  | .alias name _ => name

def Definition.lines : Definition → List String
  | .enumClass c => c.lines
  | .alias name type => [s!"{name} = {type.text}", ""]

/-- A generated module; `operationEnum` is the mapped name of the operation enum. -/
structure BindingModule where
  preamble : Preamble
  definitions : List Definition
  records : List Record
  bindings : List StructBinding
  entryPoints : EntryPoints
  operationEnum : String
  methods : List MethodSignature
  deriving DecidableEq, Repr, Inhabited

namespace BindingModule

/-- The blocks of a module, each as its lines. -/
def blocks (m : BindingModule) : List (List String) :=
  [m.preamble.lines] ++ m.definitions.map (·.lines) ++ m.records.map (·.lines) ++
    m.bindings.map (·.lines) ++ [m.entryPoints.lines] ++
    Convention.all.map (mixinLines m.methods m.operationEnum)

def text (m : BindingModule) : String :=
  Text.trimEnd (String.join (m.blocks.map Text.ofLines)) ++ "\n"

end BindingModule

/-!
## Passes

From a composition to the generated module, in passes: definitions, records, bindings, entry
points, methods. Each pass logs what it is about to do. A fault ends the run, and then there is no
module, only the log so far.
-/

/-- A step of a run: it logs, and it gives a result or a fault. -/
abbrev Logged := ExceptT Fault (StateM (List (LogEntry (List (String × Detail)))))

namespace Logged

def log (severity : Severity) (message : String) (details : List (String × Detail)) :
    Logged Unit :=
  modify (· ++ [⟨severity, message, some details⟩])

def logCount (message key : String) (count : Nat) : Logged Unit :=
  log .debug message [(key, .number count)]

def runLog {α : Type} (step : Logged α) :
    Except Fault α × List (LogEntry (List (String × Detail))) :=
  (ExceptT.run step).run []

end Logged

namespace NamedDeclaration

def isStruct (d : NamedDeclaration) : Bool :=
  match d.declaration.type with
  | .struct .cAbi _ => true
  | _ => false

theorem isStruct_iff {d : NamedDeclaration} :
    d.isStruct = true ↔ ∃ fields, d.declaration.type = .struct .cAbi fields := by
  unfold isStruct
  split <;> simp_all

def enumClass (d : NamedDeclaration) : Except Fault EnumClass :=
  EnumClass.build d.declaration d.mapping.name
    (EnumClass.skipList d.declaration.type d.mapping.skip)

/-- What a mapping defines in the first pass (`emitDeclaration`). A struct of the platform's layout
is left to the later ones, and a struct without a layout cannot be bound. -/
def definition? (names : Names) (d : NamedDeclaration) : Except Fault (Option Definition) :=
  match d.declaration.type with
  | .struct .cAbi _ => .ok none
  | .struct .packed _ => (some ∘ .enumClass) <$> d.enumClass
  | .struct .auto _ => .error (.layoutUndefined d.declaration.name)
  | .enum _ _ => (some ∘ .enumClass) <$> d.enumClass
  | type => (some ∘ .alias d.mapping.name) <$> names.ctype type d.declaration.name

theorem definition?_of_structural (names : Names) {d : NamedDeclaration}
    (h : d.declaration.type.isNominal = false) :
    d.definition? names = (some ∘ .alias d.mapping.name) <$>
      names.ctype d.declaration.type d.declaration.name := by
  unfold definition?
  cases same : d.declaration.type with
  | enum tagBits variants => simp [same, NativeType.isNominal] at h
  | struct layout fields => simp [same, NativeType.isNominal] at h
  | _ => rfl

def record (names : Names) (d : NamedDeclaration) : Except Fault Record :=
  Record.build names d.declaration d.mapping.name

/-- Only domain types have a record to convert to. -/
def binding (names : Names) (d : NamedDeclaration) : Except Fault StructBinding :=
  StructBinding.build names d.declaration d.mapping.name (d.table == .domain)

end NamedDeclaration

namespace Composition

def roleName (c : Composition) (role : Role) : Except Fault String :=
  c.names.require (c.client.roles.get role) s!"client role '{role.text}'"

def entryPoints (c : Composition) : Except Fault EntryPoints := do
  return { library := c.client.library, symbolPrefix := c.client.symbolPrefix
           status := ← c.roleName .status, packet := ← c.roleName .packet
           handle := ← c.roleName .handle }

/-- The skip list that the mapping of a type gives, in whichever table it is. -/
def mappedSkip (names : Names) (type : String) : Option (List String) :=
  ((names.protocol.find? type).bind (·.skip)).or ((names.domain.find? type).bind (·.skip))

def operationEnum (c : Composition) : Except Fault OperationEnum := do
  let name ← c.roleName .operation
  let declaration ← c.types.get c.client.roles.operation
  return { name, hidden := EnumClass.skipList declaration.type
                             (mappedSkip c.names c.client.roles.operation) }

/-- Generates the module of a composition (`generateBindings`). -/
def generate (c : Composition) (options : GeneratorOptions) : Logged BindingModule := do
  let mappings ← liftExcept c.names.all
  Logged.logCount "Emitting enums, flags and aliases" "count" mappings.length
  let definitions ← liftExcept (mappings.mapM (·.definition? c.names))
  let domain ← liftExcept c.names.domainEntries
  let structs := domain.filter (·.isStruct)
  Logged.logCount "Emitting value records" "count" structs.length
  let records ← liftExcept (structs.mapM (·.record c.names))
  let bound := mappings.filter (·.isStruct)
  Logged.logCount "Emitting structure bindings" "count" bound.length
  let bindings ← liftExcept (bound.mapM (·.binding c.names))
  Logged.log .debug "Emitting native functions" [("prefix", .text c.client.symbolPrefix)]
  let entryPoints ← liftExcept c.entryPoints
  let operationEnum ← liftExcept c.operationEnum
  let methods ← liftExcept (MethodSignature.buildAll c.names operationEnum c.operations)
  Logged.logCount "Emitting operation mixins" "methods" methods.length
  Logged.log .info s!"Generated bindings for {c.domain.name} v{countText c.domain.version}"
    [("protocol", .text c.protocol.name), ("declarations", .number mappings.length),
      ("methods", .number (methods.length * Convention.all.length))]
  return { preamble := { generatorName := options.generatorName
                         runtimeModule := options.runtimeModule
                         library := c.client.library }
           definitions := definitions.filterMap id, records, bindings, entryPoints
           operationEnum := operationEnum.name, methods }
where
  /-- A step that logs nothing. -/
  liftExcept {α : Type} (result : Except Fault α) : Logged α := ExceptT.mk (pure result)

/-- The text of the module, with options still to be checked. -/
def generateText (c : Composition) (options : Option Value) : Logged String := do
  let options ← generate.liftExcept (GeneratorOptions.resolve options)
  return (← c.generate options).text

end Composition
end NativeBindings
