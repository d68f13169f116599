import NativeBindings.Fault
import NativeBindings.Lowering
import NativeBindings.Text

/-!
# Enum classes

An enum becomes a class of integers, a packed struct a class of flags. A flag is the bit at the
field's position among all declared fields, so leaving a field out never moves another flag.
-/
namespace NativeBindings

inductive EnumBase where
  | integers | flags
  deriving DecidableEq, Repr, Inhabited

def EnumBase.text : EnumBase → String
  | .integers => "enum.IntEnum"
  | .flags => "enum.IntFlag"

/-- How the value of a member is written: a numeral, or a one shifted to a bit. -/
inductive MemberExpression where
  | numeral (value : Int)
  | bit (position : Nat)
  deriving DecidableEq, Repr, Inhabited

def MemberExpression.text : MemberExpression → String
  | .numeral value => toString value
  | .bit position => "1 << " ++ toString position

structure EnumMember where
  name : String
  value : Int
  expression : MemberExpression
  deriving DecidableEq, Repr, Inhabited

structure EnumClass where
  name : String
  base : EnumBase
  members : List EnumMember
  deriving DecidableEq, Repr, Inhabited

namespace EnumClass

def ofVariant (variant : Variant) : EnumMember :=
  ⟨Naming.upper variant.name, variant.value, .numeral variant.value⟩

/-- The member of a field at a position. -/
def ofField (name : String) (position : Nat) : EnumMember :=
  ⟨Naming.upper name, (Nat.pow 2 position : Nat), .bit position⟩

def noFlags : EnumMember := ⟨"NONE", 0, .numeral 0⟩

/-- Every skipped name must be declared; the first that is not is reported (`ensureSkipNamesExist`).
-/
def checkSkip (type : String) (skip declared : List String) : Except Fault Unit :=
  match skip.find? (· ∉ declared) with
  | some member => .error (.skipUndeclared type member)
  | none => .ok ()

/-- The class of an enum or a packed struct, without the members to skip (`buildEnumClass`). -/
def build (d : Declaration) (name : String) (skip : List String) : Except Fault EnumClass :=
  match d.type with
  | .enum _ variants => do
    checkSkip d.name skip (variants.map (·.name))
    return { name, base := .integers
             members := (variants.filter (·.name ∉ skip)).map ofVariant }
  | .struct .packed fields => do
    checkSkip d.name skip (fields.map (·.name))
    let exposed := fields.zipIdx.filter fun (field, _) => field.name ∉ skip
    return { name, base := .flags
             members := noFlags :: exposed.map fun (field, position) =>
               ofField field.name position }
  | _ => .error (.notEnumLike d.name)

/-- The fields that a packed struct skips without being told to. -/
def defaultSkip : List String := ["padding"]

/-- The members to skip: those that are given, else the default for the fields of a packed struct
and nothing for other types (`resolveSkipList`). -/
def skipList (type : NativeType) (skip : Option (List String)) : List String :=
  match skip with
  | some names => names
  | none => match type with
    | .struct .packed fields => defaultSkip.filter fun name => fields.any (·.name == name)
    | _ => []

/-- A class with two empty lines after it (`renderEnumClass`). -/
def lines (c : EnumClass) : List String :=
  [s!"class {c.name}({c.base.text}):"] ++
    (if c.members.isEmpty then ["    pass"] else []) ++
    c.members.map (fun member => s!"    {member.name} = {member.expression.text}") ++ ["", ""]

end EnumClass
end NativeBindings
