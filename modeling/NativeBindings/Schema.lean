import NativeBindings.Decimal

/-!
# Schemas

What a schema document holds: the native types that cross the boundary, their declarations and
generated names, and the operations of the client.
-/
namespace NativeBindings

/-!
## Native types

The types that cross the boundary to native code. A declaration gives a type its identity; what is
nested inside is structural and mentions other declarations by reference. Enums and structs are
meant to stand only at the top of a declaration, which `Check.type` enforces.

Widths, lengths and discriminants are integers of any size and sign here; checking them is a rule
of its own.
-/

/-- How the fields of a struct are laid out: by the platform's C rules, bit by bit in one unsigned
integer, or in no particular way. -/
inductive Layout where
  | cAbi | packed | auto
  deriving DecidableEq, Repr, Inhabited

structure Variant where
  name : String
  value : Int
  deriving DecidableEq, Repr, Inhabited

/-- A field of a struct. A reserved field occupies space and is never exposed. -/
structure Field (τ : Type) where
  name : String
  type : τ
  reserved : Bool
  deriving Inhabited

inductive NativeType where
  | bool
  | void
  /-- The pointee of an untyped pointer. -/
  | untyped
  | int (bits : Int) (signed : Bool)
  | float (bits : Int)
  | array (element : NativeType) (length : Int)
  | pointer (pointee : NativeType) (nullable : Bool)
  | enum (tagBits : Int) (variants : List Variant)
  | struct (layout : Layout) (fields : List (Field NativeType))
  /-- A mention of a declaration. -/
  | ref (name : String)
  deriving Inhabited

/-- A field that nothing is said about: it is reserved iff it is named so. -/
def Field.unflagged (name : String) (type : NativeType) : Field NativeType :=
  ⟨name, type, name == "reserved"⟩

abbrev Fields := List (Field NativeType)

/-- A type under its native name. -/
structure Declaration where
  name : String
  type : NativeType
  deriving Inhabited

/-- One event per call, or a list of them. -/
inductive Arity where
  | single | batch
  deriving DecidableEq, Repr, Inhabited

/-- An operation of the native client. `parameter` names the argument of the generated method. -/
structure Operation where
  name : String
  arity : Arity
  event : NativeType
  result : NativeType
  parameter : String
  deriving Inhabited

namespace NativeType

def isUnsigned : NativeType → Bool
  | int _ signed => !signed
  | _ => false

/-- An enum or a struct, the types that need a declaration of their own. -/
def isNominal : NativeType → Bool
  | enum _ _ => true
  | struct _ _ => true
  | _ => false

/-- The declaration a reference mentions; other types have no identity. -/
def identity? : NativeType → Option String
  | ref name => some name
  | _ => none

end NativeType

/-!
## Type expressions: writing

The text of a type. For types that an expression can denote it is the expression without blanks;
enums and structs, which have none, are described instead.
-/

def Layout.text : Layout → String
  | .cAbi => "extern"
  | .packed => "packed"
  | .auto => "auto"

/-- The expression that denotes a type, or a description of it (`formatTypeKind`). -/
def NativeType.text : NativeType → String
  | .bool => "bool"
  | .void => "void"
  | .untyped => "anyopaque"
  | .int bits signed => (if signed then "i" else "u") ++ countText bits
  | .float bits => "f" ++ countText bits
  | .array element length => "[" ++ countText length ++ "]" ++ element.text
  | .pointer pointee nullable => (if nullable then "?*" else "*") ++ pointee.text
  | .enum tagBits _ => "enum(u" ++ countText tagBits ++ ")"
  | .struct layout _ => layout.text ++ " struct"
  | .ref name => name

/-!
## Schema documents

A document declares native types, gives some of them generated names and describes operations. A
protocol document also describes the client library that the generated module drives.
-/

/-- Which document a name table comes from. -/
inductive TableKind where
  | protocol | domain
  deriving DecidableEq, Repr, Inhabited

def TableKind.text : TableKind → String
  | .protocol => "protocol"
  | .domain => "domain"

/-- The generated name of a native declaration. `skip` lists the members that are not generated;
without a list a default applies, which an empty list turns off. -/
structure Mapping where
  type : String
  name : String
  skip : Option (List String) := none
  deriving DecidableEq, Repr, Inhabited

structure Metadata where
  name : String
  version : Int
  description : Option String := none
  deriving DecidableEq, Repr, Inhabited

/-- What the client library needs a declaration for. -/
inductive Role where
  | operation | status | packet | handle
  deriving DecidableEq, Repr, Inhabited

def Role.text : Role → String
  | .operation => "operation"
  | .status => "status"
  | .packet => "packet"
  | .handle => "handle"

/-- The roles in the order in which they are checked. -/
def Role.all : List Role := [.operation, .status, .packet, .handle]

structure Roles where
  operation : String
  status : String
  packet : String
  handle : String
  deriving DecidableEq, Repr, Inhabited

def Roles.get (roles : Roles) : Role → String
  | .operation => roles.operation
  | .status => roles.status
  | .packet => roles.packet
  | .handle => roles.handle

/-- The native client library. `library` is the name of its handle in the runtime module, and
`symbolPrefix` starts the names of its entry points. -/
structure Client where
  library : String
  symbolPrefix : String
  roles : Roles
  deriving DecidableEq, Repr, Inhabited

structure Document where
  metadata : Metadata
  types : List Declaration
  mappings : List Mapping
  operations : List Operation
  client : Option Client := none
  deriving Inhabited

end NativeBindings
