import NativeBindings.Data.Value
import NativeBindings.Schema
import NativeBindings.Native.Expression
import NativeBindings.Yaml.Read

/-!
# Decoding documents

From a data value to a schema document. The parts are read in a fixed order, which decides what is
reported when several things are wrong: the metadata, that the three lists are lists, the elements
of each list, the client library. Keys without a meaning are ignored.
-/
namespace NativeBindings

namespace Decode

def record (value : Option Value) (context : String) : Except Fault Value :=
  match value with
  | some (.map entries) => .ok (.map entries)
  | _ => .error (.notARecord context)

/-- A text is not trimmed, but may not consist of blanks alone (`requireString`). -/
def text (value : Option Value) (context : String) : Except Fault String :=
  match value with
  | some (.text s) => if Text.isBlankString s then .error (.notAText context) else .ok s
  | _ => .error (.notAText context)

def identifier (value : Option Value) (context : String) : Except Fault String := do
  let s ← text value context
  if Text.isIdentifier s then return s else throw (.notAnIdentifier context s)

/-- `place` names the expression in messages about it. -/
def expression (value : Option Value) (context place : String) : Except Fault NativeType := do
  Expression.parse (← text value context) place

/-- One of the lists of a document; a list that is missing or null is empty. -/
def section? (root : Value) (key : String) : Except Fault (List Value) :=
  match root.get? key with
  | none => .ok []
  | some .null => .ok []
  | some (.list items) => .ok items
  | some _ => .error (.notAList key)

def each {α : Type} (items : List Value) (decode : Value → Nat → Except Fault α) :
    Except Fault (List α) :=
  items.zipIdx.mapM fun (item, index) => decode item index

/-- The version may be any value that stands for an integer (`parseMetadata`). -/
def metadata (node : Value) : Except Fault Metadata := do
  let name ← text (node.get? "name") "schema.name"
  let version ← match node.get? "version" with
    | none => throw .versionMissing
    | some .null => throw .versionMissing
    | some value =>
      if !value.hasText then throw .withoutText
      match value.toNumber.toSafeInt? with
      | some n => pure n
      | none => throw .versionNotInteger
  let description := match node.get? "description" with
    | some (.text s) => some s
    | _ => none
  return { name, version, description }

def client (node : Value) : Except Fault Client := do
  let roles ← record (node.get? "roles") "client.roles"
  let library ← identifier (node.get? "library") "client.library"
  let symbolPrefix ← identifier (node.get? "symbol-prefix") "client.symbol-prefix"
  let role (key : String) := text (roles.get? key) s!"client.roles.{key}"
  return { library, symbolPrefix
           roles := { operation := ← role "operation", status := ← role "status"
                      packet := ← role "packet", handle := ← role "handle" } }

/-- The value is an integer or a double that is a safe one. -/
def variant (owner : String) (item : Value) (index : Nat) : Except Fault Variant := do
  let node ← record (some item) s!"variant {index} in enum '{owner}'"
  let name ← identifier (node.get? "name") s!"variant {index} name in enum '{owner}'"
  match node.get? "value" with
  | some (.int n) => return ⟨name, n⟩
  | some (.double x) => match x.toSafeInt? with
    | some n => return ⟨name, n⟩
    | none => throw (.variantNotInteger owner name)
  | _ => throw (.variantNotNumber owner name)

/-- The enum of a declaration (`parseEnumType`). -/
def enum (owner : String) (node : Value) : Except Fault NativeType := do
  let place := s!"enum '{owner}' tag"
  match ← expression (node.get? "tag") place place with
  | .int bits false => match node.get? "variants" with
    | some (.list (first :: rest)) => return .enum bits (← each (first :: rest) (variant owner))
    | _ => throw (.variantsMissing owner)
  | _ => throw (.tagNotUnsigned owner)

/-- Without a layout, a struct has that of the platform. -/
def layout (owner : String) (value : Option Value) : Except Fault Layout :=
  match value with
  | none => .ok .cAbi
  | some .null => .ok .cAbi
  | some (.text "extern") => .ok .cAbi
  | some (.text "packed") => .ok .packed
  | some (.text "auto") => .ok .auto
  | some other =>
    if other.hasText then .error (.layoutUnknown owner other.plainText) else .error .withoutText

/-- Without a flag, a field is reserved iff it is named so. -/
def field (owner : String) (item : Value) (index : Nat) : Except Fault (Field NativeType) := do
  let node ← record (some item) s!"field {index} in struct '{owner}'"
  let name ← identifier (node.get? "name") s!"field {index} name in struct '{owner}'"
  let type ← expression (node.get? "type") s!"type of field '{name}' in struct '{owner}'"
    s!"{owner}.{name}"
  match node.get? "reserved" with
  | none => return .unflagged name type
  | some (.bool flag) => return ⟨name, type, flag⟩
  | some _ => throw (.reservedNotBoolean owner name)

/-- The struct of a declaration (`parseStructType`). -/
def struct (owner : String) (node : Value) : Except Fault NativeType := do
  let layout ← layout owner (node.get? "layout")
  match node.get? "fields" with
  | some (.list items) => return .struct layout (← each items (field owner))
  | _ => throw (.fieldsMissing owner)

/-- An enum, a struct or an alias (`parseTypeDefinition`). -/
def declaration (item : Value) (index : Nat) : Except Fault Declaration := do
  let node ← record (some item) s!"types[{index}]"
  let name ← identifier (node.get? "name") s!"types[{index}].name"
  match ← record (node.get? "kind") s!"kind of type '{name}'" with
  | .map [("enum", value)] =>
    return ⟨name, ← enum name (← record (some value) s!"enum for {name}")⟩
  | .map [("struct", value)] =>
    return ⟨name, ← struct name (← record (some value) s!"struct for {name}")⟩
  | .map [("alias", value)] =>
    return ⟨name, ← expression (some value) s!"alias for {name}" name⟩
  | .map [(key, _)] => throw (.kindUnknown name key)
  | _ => throw (.kindNotSingle name)

def mapping (item : Value) (index : Nat) : Except Fault Mapping := do
  let node ← record (some item) s!"mappings[{index}]"
  let type ← identifier (node.get? "type") s!"mappings[{index}].type"
  let name ← identifier (node.get? "name") s!"mappings[{index}].name"
  match node.get? "skip" with
  | none => return { type, name }
  | some (.list members) =>
    let skip ← each members fun member position =>
      identifier (some member) s!"mappings[{index}].skip[{position}]"
    return { type, name, skip := some skip }
  | some _ => throw (.skipNotAList index)

def operation (item : Value) (index : Nat) : Except Fault Operation := do
  let node ← record (some item) s!"operations[{index}]"
  let name ← identifier (node.get? "name") s!"operations[{index}].name"
  let arity ← match node.get? "arity" with
    | some (.text "single") => pure Arity.single
    | some (.text "batch") => pure Arity.batch
    | _ => throw (.arityUnknown name)
  let eventPlace := s!"operation '{name}' event"
  let resultPlace := s!"operation '{name}' result"
  let event ← expression (node.get? "event") eventPlace eventPlace
  let result ← expression (node.get? "result") resultPlace resultPlace
  let parameter ← identifier (node.get? "event-name") s!"operation '{name}' event-name"
  return { name, arity, event, result, parameter }

def document (root : Value) : Except Fault Document := do
  let root ← record (some root) "schema document"
  let metadata ← metadata (← record (root.get? "schema") "schema metadata")
  let types ← section? root "types"
  let mappings ← section? root "mappings"
  let operations ← section? root "operations"
  let types ← each types declaration
  let mappings ← each mappings mapping
  let operations ← each operations operation
  let client ← match root.get? "client" with
    | none => pure none
    | some node => some <$> (record (some node) "client" >>= client)
  return { metadata, types, mappings, operations, client }

end Decode

/-- The document that a text is (`parseSchemaDocument`). -/
def Document.parse (text : String) : Except Fault Document := Yaml.read text >>= Decode.document

end NativeBindings
