import NativeBindings.Decimal
import NativeBindings.Fault
import NativeBindings.Text

/-!
# Building types in code

Functions that build declarations without a document. Where a type is expected a declaration may
be given instead, and is then mentioned by its name.

The variants of an enum are given as a record: a name that repeats keeps its first place and its
last value, and names that are array indices come before all others, in numeric order.
-/
namespace NativeBindings.Builder

open Text

/-- A type given in place, or a declaration to mention. -/
inductive TypeSource where
  | inline (type : NativeType)
  | declared (declaration : Declaration)
  deriving Inhabited

def TypeSource.type : TypeSource → NativeType
  | inline type => type
  | declared declaration => .ref declaration.name

/-- The value given for a variant: an exact integer, or a double that has to be an integer. -/
inductive Discriminant where
  | exact (value : Int)
  | number (value : Binary64)
  deriving DecidableEq, Repr

def Discriminant.toInt : Discriminant → Except Fault Int
  | exact n => .ok n
  | number x => match x.toInt? with
    | some n => .ok n
    | none => .error (.notIntegral x.text)

def unsigned (bits : Int) : NativeType := .int bits false

def u8 : NativeType := unsigned 8

def u16 : NativeType := unsigned 16

def u32 : NativeType := unsigned 32

def u64 : NativeType := unsigned 64

def u128 : NativeType := unsigned 128

/-- A signed integer. The model holds it and nothing lowers it. -/
def signed (bits : Int) : NativeType := .int bits true

def array (element : TypeSource) (length : Int) : NativeType := .array element.type length

/-- Not nullable unless said otherwise. -/
def pointer (pointee : TypeSource) (nullable : Option Bool) : NativeType :=
  .pointer pointee.type (nullable.getD false)

/-- A field, exposed unless said otherwise whatever its name. -/
def field (name : String) (type : TypeSource) (reserved : Option Bool) : Field NativeType :=
  ⟨name, type.type, reserved.getD false⟩

/-- Named `reserved` unless said otherwise. -/
def reservedField (type : TypeSource) (name : Option String) : Field NativeType :=
  field (name.getD "reserved") type (some true)

def struct (name : String) (layout : Layout) (fields : Fields) : Declaration :=
  ⟨name, .struct layout fields⟩

def typeAlias (name : String) (type : TypeSource) : Declaration := ⟨name, type.type⟩

/-- Sets a name of a record, in place if it is there and at the end if not. -/
def put {α : Type} (entries : List (String × α)) (entry : String × α) : List (String × α) :=
  if entries.any (·.1 == entry.1) then
    entries.map fun old => if old.1 == entry.1 then entry else old
  else entries ++ [entry]

/-- The largest array index. -/
def maxArrayIndex : Nat := 4294967294

/-- The array index that a name is the canonical numeral of. -/
def arrayIndex? (name : String) : Option Nat :=
  (numeral? 10 name.toList).filter fun n => toString n == name && n ≤ maxArrayIndex

/-- The entries of a record in the order in which it lists them. -/
def recordOrder {α : Type} (entries : List (String × α)) : List (String × α) :=
  let (indices, names) := (entries.foldl put []).partition fun e => (arrayIndex? e.1).isSome
  indices.mergeSort (fun a b => (arrayIndex? a.1).getD 0 ≤ (arrayIndex? b.1).getD 0) ++ names

/-- An enum, whose tag is eight bits wide unless said otherwise (`defineEnum`). -/
def enum (name : String) (variants : List (String × Discriminant)) (tagBits : Option Int) :
    Except Fault Declaration := do
  let variants ← (recordOrder variants).mapM fun (variant, value) => do
    return (⟨variant, ← value.toInt⟩ : Variant)
  return ⟨name, .enum (tagBits.getD 8) variants⟩

def operation (name : String) (arity : Arity) (event result : TypeSource) (parameter : String) :
    Operation :=
  { name, arity, event := event.type, result := result.type, parameter }

end NativeBindings.Builder
