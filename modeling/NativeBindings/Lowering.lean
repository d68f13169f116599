import NativeBindings.Decimal
import NativeBindings.Document.Composition
import NativeBindings.Native.Registry

/-!
# Lowering

What native types are at the boundary and to callers: widths in packed structs, ctypes, type hints
and defaults.
-/
namespace NativeBindings.Naming

/-! ## Generated names -/

/-- The wrapper of 128 bit integers that the runtime module supplies (`WIDE_INT_CTYPE`). -/
def wideInteger : String := "c_uint128"

/-- The structure class of a mapped name (`ctypeStructName`). -/
def structureClass (name : String) : String := "C" ++ name

/-- Upper case for ASCII letters; every other character stays (`toUpperAscii`). -/
def upper (name : String) : String := String.ofList (name.toList.map Char.toUpper)

end NativeBindings.Naming

/-!
## Following aliases

An alias is a declaration whose type is neither an enum nor a struct. Following the references of a
type through aliases ends at a type that is no reference, together with the last declaration on the
way, whose name the name tables know.
-/
namespace NativeBindings

/-- The end of a chain of references, and the last declaration on the way if there is one. -/
structure Resolved where
  type : NativeType
  declaration : Option String := none
  deriving Inhabited

namespace Registry

/-- Follows references; `seen` are the names followed so far, the last one first. A name that comes
up again would never end. Every new name is declared, so `depth`, the number of declarations, is
never used up before a name repeats. -/
def resolveFrom (types : Registry) : (depth : Nat) → (seen : List String) → NativeType →
    Except Fault Resolved
  | depth, seen, .ref name =>
    if name ∈ seen then .error (.aliasOfItself name)
    else match depth with
      | 0 => .error (.undeclared name)
      | depth + 1 => do
        let d ← types.get name
        types.resolveFrom depth (name :: seen) d.type
  | _, seen, type => .ok ⟨type, seen.head?⟩

theorem resolveFrom_end {types : Registry} {depth : Nat} {seen : List String} {type : NativeType}
    (h : ∀ name, type ≠ .ref name) :
    types.resolveFrom depth seen type = .ok ⟨type, seen.head?⟩ := by
  cases type with
  | ref name => exact absurd rfl (h name)
  | _ => simp [resolveFrom]

theorem resolveFrom_ref {types : Registry} {depth : Nat} {seen : List String} {name : String}
    {d : Declaration} (fresh : name ∉ seen) (h : types.find? name = some d) :
    types.resolveFrom (depth + 1) seen (.ref name) =
      types.resolveFrom depth (name :: seen) d.type := by
  simp only [resolveFrom, fresh, ↓reduceIte, get_eq_ok_iff.mpr h]
  rfl

/-- Where the references of a type lead (`resolveType`). -/
def resolve (types : Registry) (type : NativeType) : Except Fault Resolved :=
  types.resolveFrom (types.size + 1) [] type

/-- The type alone (`underlyingKind`). -/
def underlying (types : Registry) (type : NativeType) : Except Fault NativeType :=
  (·.type) <$> types.resolve type

end Registry

/-!
## Packed widths

A packed struct crosses the boundary as one unsigned integer, so every field has a width in bits
and the struct the sum of them. Widths are counted in doubles, so a sum is exact as long as it is
safe. References count as what they name. `endlessReferences` stands for a chain of references that
never ends, which checked declarations do not have.
-/

/-- What to do with a reference: the same task, for the declaration it names. -/
abbrev OnReference (α : Type) := (name context : String) → Except Fault α

mutual

/-- The width of a type in a packed struct, given that of what a reference names. -/
def packedWidthWith (onReference : OnReference Int) :
    NativeType → String → Except Fault Int
  | .bool, _ => .ok 1
  | .int bits signed, context =>
    if signed then .error (.packedSigned (.int bits signed) context) else .ok bits
  | .enum tagBits _, _ => .ok tagBits
  | .struct .packed fields, context => packedFieldsWidthWith onReference 0 fields context
  | .struct layout _, context => .error (.packedHoldsStruct layout context)
  | .ref name, context => onReference name context
  | other, context => .error (.packedUnsupported other context)

/-- The sum of the widths of fields and what is counted before them. -/
def packedFieldsWidthWith (onReference : OnReference Int) (before : Int) :
    List (Field NativeType) → String → Except Fault Int
  | [], _ => .ok before
  | ⟨name, type, _⟩ :: rest, context => do
    let width ← packedWidthWith onReference type (context ++ "." ++ name)
    packedFieldsWidthWith onReference (Binary64.nearest (before + width)) rest context

end

namespace Registry

/-- The width of the declaration of a name, through at most `depth` references. Names that come up
after as many references as there are declarations are not declared, or come up again. -/
def packedReference (types : Registry) : (depth : Nat) → OnReference Int
  | 0, name, _ => types.get name >>= fun _ => .error .endlessReferences
  | depth + 1, name, context => do
    let d ← types.get name
    packedWidthWith (types.packedReference depth) d.type context

/-- The width of a type in a packed struct (`packedBitSize`). -/
def packedWidth (types : Registry) (type : NativeType) (context : String) : Except Fault Int :=
  packedWidthWith (types.packedReference types.size) type context

/-- The width of a packed struct of the given fields (`packedStructBitSize`). -/
def packedFieldsWidth (types : Registry) (fields : Fields) (context : String) :
    Except Fault Int :=
  packedFieldsWidthWith (types.packedReference types.size) 0 fields context

end Registry

/-!
## Ctypes

The representation of a native type at the boundary. Enums and packed structs are the unsigned
integer of their width, pointers are untyped or to a structure class, and an array multiplies the
representation of its element. A type without a representation is a fault.
-/

/-- The widths of the unsigned integers that exist at the boundary. -/
inductive CtypeWidth where
  | w8 | w16 | w32 | w64 | w128
  deriving DecidableEq, Repr, Inhabited

def CtypeWidth.bits : CtypeWidth → Int
  | .w8 => 8
  | .w16 => 16
  | .w32 => 32
  | .w64 => 64
  | .w128 => 128

def CtypeWidth.ofBits? (bits : Int) : Option CtypeWidth :=
  [CtypeWidth.w8, .w16, .w32, .w64, .w128].find? (·.bits == bits)

/-- A type expression of the generated module. A pointer is to the structure class of a mapped name.
-/
inductive Ctype where
  | none
  | bool
  | unsigned (width : CtypeWidth)
  | untypedPointer
  | pointer (name : String)
  | array (element : Ctype) (length : Int)
  deriving DecidableEq, Repr, Inhabited

/-- A ctype as it is written. The product associates to the left, so that the lengths after the
innermost type read from the inside out. -/
def Ctype.text : Ctype → String
  | .none => "None"
  | .bool => "ctypes.c_bool"
  | .unsigned .w8 => "ctypes.c_uint8"
  | .unsigned .w16 => "ctypes.c_uint16"
  | .unsigned .w32 => "ctypes.c_uint32"
  | .unsigned .w64 => "ctypes.c_uint64"
  | .unsigned .w128 => Naming.wideInteger
  | .untypedPointer => "ctypes.c_void_p"
  | .pointer name => "ctypes.POINTER(" ++ Naming.structureClass name ++ ")"
  | .array element length => element.text ++ " * " ++ countText length

theorem Ctype.text_unsigned (width : CtypeWidth) : (unsigned width).text =
    if width.bits = 128 then "c_uint128" else "ctypes.c_uint" ++ countText width.bits := by
  cases width <;> decide

theorem Ctype.text_pointer (name : String) :
    (pointer name).text = "ctypes.POINTER(" ++ Naming.structureClass name ++ ")" := rfl

theorem Ctype.text_array (element : Ctype) (length : Int) :
    (array element length).text = element.text ++ " * " ++ countText length := rfl

/-- The unsigned integer of a width (`lowerUnsigned`). -/
def Ctype.ofBits (bits : Int) (context : String) : Except Fault Ctype :=
  match CtypeWidth.ofBits? bits with
  | some width => .ok (.unsigned width)
  | Option.none => .error (.noCtypeOfWidth bits context)

/-- An unsigned integer of 128 bits, whose values go through the runtime's wrapper. -/
def NativeType.isWide : NativeType → Bool
  | .int bits signed => !signed && bits == 128
  | _ => false

/-- A class that operations marshal their events and results with: the wrapper of wide integers, or
the structure class of a mapped name. -/
inductive Wrapper where
  | wideInteger
  | struct (name : String)
  deriving DecidableEq, Repr, Inhabited

def Wrapper.text : Wrapper → String
  | .wideInteger => Naming.wideInteger
  | .struct name => Naming.structureClass name

theorem Wrapper.text_wideInteger : Wrapper.wideInteger.text = "c_uint128" := rfl

theorem Wrapper.text_struct (name : String) : (struct name).text = "C" ++ name := rfl

namespace Names

/-- A pointer (`lowerPointer`). Null pointers need no representation of their own. -/
def pointerCtype (names : Names) (pointee : NativeType) (context : String) : Except Fault Ctype :=
  match pointee with
  | .untyped => .ok .untypedPointer
  | .ref name => .pointer <$> names.require name context
  | other => .error (.pointerTarget other context)

/-- The representation of a type, given that of what a reference names. -/
def ctypeWith (names : Names) (onReference : OnReference Ctype) :
    NativeType → String → Except Fault Ctype
  | .array element length, context =>
    (.array · length) <$> ctypeWith names onReference element (context ++ "[]")
  | .enum tagBits _, context => Ctype.ofBits tagBits context
  | .struct .packed fields, context => do
    Ctype.ofBits (← names.types.packedFieldsWidth fields context) context
  | .struct layout _, context => .error (.structByValue layout context)
  | .bool, _ => .ok .bool
  | .int bits signed, context =>
    if signed then .error (.signedInteger (.int bits signed) context)
    else Ctype.ofBits bits context
  | .pointer pointee _, context => names.pointerCtype pointee context
  | .void, _ => .ok .none
  | .ref name, context => onReference name context
  | .float bits, context => .error (.noCtype (.float bits) context)
  | .untyped, context => .error (.noCtype .untyped context)

def ctypeOfReference (names : Names) : (depth : Nat) → OnReference Ctype
  | 0, name, _ => names.types.get name >>= fun _ => .error .endlessReferences
  | depth + 1, name, context => do
    let d ← names.types.get name
    ctypeWith names (names.ctypeOfReference depth) d.type s!"{context} ({name})"

/-- The representation of a type (`lowerToCtype`). -/
def ctype (names : Names) (type : NativeType) (context : String) : Except Fault Ctype :=
  names.ctypeWith (names.ctypeOfReference names.types.size) type context

/-- Does a value of the type go through the wrapper of wide integers (`isWideInt`)? -/
def isWide (names : Names) (type : NativeType) : Except Fault Bool :=
  NativeType.isWide <$> names.types.underlying type

/-- The class that marshals a type (`ctypeWrapperName`): the wrapper of wide integers, or the
structure class of a declared struct of the platform's layout. -/
def wrapper (names : Names) (type : NativeType) (context : String) : Except Fault Wrapper := do
  let resolved ← names.types.resolve type
  if resolved.type.isWide then return .wideInteger
  match resolved with
  | ⟨.struct .cAbi _, some declaration⟩ =>
    return .struct (← names.require declaration context)
  | _ => throw (.notMarshalled type context)

end Names

/-!
## Value types

How a native type appears to callers: the type hint of a record field or a parameter, and the
default of a record field. Only the domain table is consulted, since protocol types never surface
as values.
-/

/-- A type hint of the generated module. -/
inductive TypeHint where
  | bool
  | int
  | none
  | named (name : String)
  | array (element : TypeHint) (length : Int)
  deriving DecidableEq, Repr, Inhabited

def TypeHint.text : TypeHint → String
  | .bool => "bool"
  | .int => "int"
  | .none => "None"
  | .named name => name
  | .array element length => element.text ++ "[" ++ countText length ++ "]"

theorem TypeHint.text_bool : TypeHint.bool.text = "bool" := rfl

theorem TypeHint.text_int : TypeHint.int.text = "int" := rfl

theorem TypeHint.text_none : TypeHint.none.text = "None" := rfl

theorem TypeHint.text_named (name : String) : (named name).text = name := rfl

theorem TypeHint.text_array (element : TypeHint) (length : Int) :
    (array element length).text = element.text ++ ("[" ++ countText length ++ "]") := by
  rw [← String.append_assoc, ← String.append_assoc]
  rfl

/-- The default of a record field. -/
inductive DefaultValue where
  | false
  | zero
  | none
  /-- The empty set of flags of a mapped name. -/
  | noFlags (name : String)
  | repeated (element : DefaultValue) (length : Int)
  deriving DecidableEq, Repr, Inhabited

def DefaultValue.text : DefaultValue → String
  | .false => "False"
  | .zero => "0"
  | .none => "None"
  | .noFlags name => name ++ ".NONE"
  | .repeated element length => "(" ++ element.text ++ ",) * " ++ countText length

theorem DefaultValue.text_false : DefaultValue.false.text = "False" := rfl

theorem DefaultValue.text_zero : DefaultValue.zero.text = "0" := rfl

theorem DefaultValue.text_none : DefaultValue.none.text = "None" := rfl

theorem DefaultValue.text_noFlags (name : String) : (noFlags name).text = name ++ ".NONE" := rfl

theorem DefaultValue.text_repeated (element : DefaultValue) (length : Int) :
    (repeated element length).text = "(" ++ element.text ++ ",) * " ++ countText length := rfl

namespace Names

/-- The type hint of a type, given that of what a reference names. -/
def hintWith (onReference : OnReference TypeHint) : NativeType → String → Except Fault TypeHint
  | .ref name, context => onReference name context
  | .array element length, context =>
    (.array · length) <$> hintWith onReference element (context ++ "[]")
  | .bool, _ => .ok .bool
  | .int bits signed, context =>
    if signed then .error (.signedInteger (.int bits signed) context) else .ok .int
  | .void, _ => .ok .none
  | .enum tagBits variants, context => .error (.anonymousValue (.enum tagBits variants) context)
  | .struct layout fields, context => .error (.anonymousValue (.struct layout fields) context)
  | other, context => .error (.noValueType other context)

def hintOfReference (names : Names) : (depth : Nat) → OnReference TypeHint
  | 0, name, _ => names.types.get name >>= fun _ => .error .endlessReferences
  | depth + 1, name, context => do
    let d ← names.types.get name
    if d.type.isNominal then return .named (← names.requireDomain d.name context)
    hintWith (names.hintOfReference depth) d.type s!"{context} ({name})"

/-- The type hint of a type (`lowerToPython`). -/
def hint (names : Names) (type : NativeType) (context : String) : Except Fault TypeHint :=
  hintWith (names.hintOfReference names.types.size) type context

def defaultWith (onReference : OnReference DefaultValue) :
    NativeType → String → Except Fault DefaultValue
  | .ref name, context => onReference name context
  | .array element length, context =>
    (.repeated · length) <$> defaultWith onReference element (context ++ "[]")
  | .bool, _ => .ok .false
  | .int _ _, _ => .ok .zero
  | .void, _ => .ok .none
  | .enum tagBits variants, context => .error (.anonymousValue (.enum tagBits variants) context)
  | .struct layout fields, context => .error (.anonymousValue (.struct layout fields) context)
  | other, context => .error (.noDefault other context)

def defaultOfReference (names : Names) : (depth : Nat) → OnReference DefaultValue
  | 0, name, _ => names.types.get name >>= fun _ => .error .endlessReferences
  | depth + 1, name, context => do
    let d ← names.types.get name
    match d.type with
    | .struct .packed _ => return .noFlags (← names.requireDomain d.name context)
    | .struct layout _ => throw (.structWithoutDefault layout context)
    | .enum _ _ => return .zero
    | other => defaultWith (names.defaultOfReference depth) other s!"{context} ({name})"

/-- The default of a type (`pythonDefault`). -/
def defaultValue (names : Names) (type : NativeType) (context : String) :
    Except Fault DefaultValue :=
  defaultWith (names.defaultOfReference names.types.size) type context

end Names
end NativeBindings
