import NativeBindings.Lowering
import NativeBindings.Text

/-!
# Structs

What becomes of a struct: the record that callers see and the class that stores it.
-/
namespace NativeBindings

/-!
## Value records

The record that callers see of a struct: its fields in order, the reserved ones left out, each with
a type hint and a default (`buildDataclassFields`, `renderDataclass`).
-/

structure RecordField where
  name : String
  hint : TypeHint
  default : DefaultValue
  deriving DecidableEq, Repr, Inhabited

structure Record where
  name : String
  fields : List RecordField
  deriving DecidableEq, Repr, Inhabited

def Fields.exposed (fields : Fields) : Fields := fields.filter (!·.reserved)

theorem Fields.mem_of_mem_exposed {fields : Fields} {f : Field NativeType}
    (h : f ∈ Fields.exposed fields) : f ∈ fields := (List.mem_filter.mp h).1

namespace Record

def field (names : Names) (owner : String) (f : Field NativeType) : Except Fault RecordField := do
  let context := s!"{owner}.{f.name}"
  return { name := f.name, hint := ← names.hint f.type context
           default := ← names.defaultValue f.type context }

def build (names : Names) (d : Declaration) (name : String) : Except Fault Record :=
  match d.type with
  | .struct .cAbi fields => do
    return { name, fields := ← (Fields.exposed fields).mapM (field names d.name) }
  | _ => .error (.recordOfOther d.name)

def lines (r : Record) : List String :=
  ["@dataclass", s!"class {r.name}:"] ++
    (if r.fields.isEmpty then ["    pass"] else []) ++
    r.fields.map (fun f => s!"    {f.name}: {f.hint.text} = {f.default.text}") ++ ["", ""]

end Record

/-!
## Structure bindings

The class that stores a struct as native code sees it. It is constructed from a value record after
the exposed integers have been checked against their widths, because a narrow ctypes integer drops
high bits silently; integers of 128 bits check themselves. A binding of a domain type also converts
back to its record (`buildStructBinding`, `renderStructBinding`).
-/

structure BoundsCheck where
  field : String
  bits : Int
  deriving DecidableEq, Repr, Inhabited

/-- How a record's field is stored: as it is, or through the wrapper of wide integers. -/
inductive Stored where
  | plain
  | wide
  deriving DecidableEq, Repr, Inhabited

/-- How a stored field is read back. -/
inductive Restored where
  | plain
  | wide
  /-- Through the class of a mapped name. -/
  | wrapped (name : String)
  deriving DecidableEq, Repr, Inhabited

def Stored.text (stored : Stored) (field : String) : String :=
  match stored with
  | .plain => s!"obj.{field}"
  | .wide => s!"{Naming.wideInteger}.from_param(obj.{field})"

theorem Stored.text_plain (field : String) : Stored.plain.text field = "obj." ++ field := by
  simp [text, toString]

theorem Stored.text_wide (field : String) :
    Stored.wide.text field = "c_uint128.from_param(obj." ++ field ++ ")" := by
  simp [text, Naming.wideInteger, toString]

def Restored.text (restored : Restored) (field : String) : String :=
  match restored with
  | .plain => s!"self.{field}"
  | .wide => s!"self.{field}.to_python()"
  | .wrapped name => s!"{name}(self.{field})"

theorem Restored.text_plain (field : String) : Restored.plain.text field = "self." ++ field := by
  simp [text, toString]

theorem Restored.text_wide (field : String) :
    Restored.wide.text field = "self." ++ field ++ ".to_python()" := by
  simp [text, toString]

theorem Restored.text_wrapped (name field : String) :
    (wrapped name).text field = name ++ "(self." ++ field ++ ")" := by
  simp [text, toString]

/-- The binding of a struct of the given mapped name. -/
structure StructBinding where
  name : String
  checks : List BoundsCheck
  /-- The exposed fields and how each is stored. -/
  stored : List (String × Stored)
  /-- The exposed fields and how each is read back, if there is a record to convert to. -/
  restored : Option (List (String × Restored))
  /-- Every declared field with its representation. -/
  layout : List (String × Ctype)
  deriving DecidableEq, Repr, Inhabited

namespace StructBinding

def className (b : StructBinding) : String := Naming.structureClass b.name

/-- The check of an exposed field (`boundsCheckFor`). -/
def check? (names : Names) (owner : String) (f : Field NativeType) :
    Except Fault (Option BoundsCheck) := do
  match ← names.types.underlying f.type with
  | .int bits true => throw (.signedField owner f.name (.int bits true))
  | .int bits false => return if bits = 128 then none else some ⟨f.name, bits⟩
  | _ => return none

def store (names : Names) (f : Field NativeType) : Except Fault Stored := do
  return if ← names.isWide f.type then .wide else .plain

/-- Both are found field by field, so that the first field at fault is reported. -/
def checkAndStore (names : Names) (owner : String) (f : Field NativeType) :
    Except Fault (Option BoundsCheck × String × Stored) := do
  let check ← check? names owner f
  let stored ← store names f
  return (check, f.name, stored)

/-- Enums and structs are read back through their domain class, if they have one
(`convertToPython`). -/
def restore (names : Names) (f : Field NativeType) : Except Fault (String × Restored) := do
  let resolved ← names.types.resolve f.type
  let domainName := if resolved.type.isNominal then
      resolved.declaration.bind names.lookupDomain
    else none
  match domainName with
  | some name => return (f.name, .wrapped name)
  | none => return (f.name, if resolved.type.isWide then .wide else .plain)

def layoutField (names : Names) (owner : String) (f : Field NativeType) :
    Except Fault (String × Ctype) := do
  return (f.name, ← names.ctype f.type s!"{owner}.{f.name}")

def build (names : Names) (d : Declaration) (name : String) (withRecord : Bool) :
    Except Fault StructBinding :=
  match d.type with
  | .struct .cAbi fields => do
    let exposed := Fields.exposed fields
    let inward ← exposed.mapM (checkAndStore names d.name)
    let restored ← if withRecord then some <$> exposed.mapM (restore names) else pure none
    let layout ← fields.mapM (layoutField names d.name)
    return { name, checks := inward.filterMap (·.1), stored := inward.map (·.2), restored, layout }
  | _ => .error (.bindingOfOther d.name)

theorem build_of_struct {names : Names} {d : Declaration} {fields : Fields} (name : String)
    (withRecord : Bool) (h : d.type = .struct .cAbi fields) :
    build names d name withRecord = (do
      let inward ← (Fields.exposed fields).mapM (checkAndStore names d.name)
      let restored ← (if withRecord then some <$> (Fields.exposed fields).mapM (restore names)
        else pure none : Except Fault (Option (List (String × Restored))))
      let layout ← fields.mapM (layoutField names d.name)
      pure { name, checks := inward.filterMap (·.1), stored := inward.map (·.2), restored,
             layout }) := by
  cases withRecord <;> simp [build, h]

/-- A keyword argument on a line of its own. -/
def argument (keyword expression : String) : String := s!"            {keyword}={expression},"

def converterLines (b : StructBinding) : List String :=
  match b.restored with
  | none => []
  | some fields =>
    ["", "    def to_python(self):", s!"        return {b.name}("] ++
    fields.map (fun (field, restored) => argument field (restored.text field)) ++
    ["        )"]

def classLines (b : StructBinding) : List String :=
  [s!"class {b.className}(ctypes.Structure):", "    @classmethod",
    "    def from_param(cls, obj):"] ++
  b.checks.map (fun c =>
    s!"        validate_uint(bits={countText c.bits}, name=\"{c.field}\", number=obj.{c.field})") ++
  ["        return cls("] ++
  b.stored.map (fun (field, stored) => argument field (stored.text field)) ++
  ["        )"] ++
  b.converterLines ++
  ["", ""]

/-- The lines that give the class its fields. They come after the class, whose own name a field may
mention. -/
def fieldLines (b : StructBinding) : List String :=
  [s!"{b.className}._fields_ = [ # noqa: SLF001"] ++
  b.layout.map (fun (field, ctype) => s!"    (\"{field}\", {ctype.text}),") ++
  ["]", "", ""]

def lines (b : StructBinding) : List String := b.classLines ++ b.fieldLines

end StructBinding
end NativeBindings
