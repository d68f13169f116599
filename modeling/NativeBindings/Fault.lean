import NativeBindings.Schema

/-!
# Faults

Everything that can go wrong, as causes. A cause has a category, a message and details, each given
by one function. Contexts are the paths by which messages say where a type stands, such as
`account_t.flags` or `operation 'pulse' event`.
-/
namespace NativeBindings

/-! ## What can be wrong with an option record -/

/-- The log levels by name, as a message lists them. -/
def levelChoices : String := "'debug' | 'info' | 'warn' | 'error' | 'silent'"

/-- One thing that is wrong with one option; `missing` is that there is no record of options at all.
-/
inductive OptionIssue where
  | missing
  | notARecord (found : String)
  | notText (option found : String)
  | empty (option : String)
  | notAModulePath (option : String)
  | notOneLine (option : String)
  | notALevel (option value : String)
  | levelNotText (option found : String)
  deriving DecidableEq, Repr

namespace OptionIssue

/-- The option at fault; empty when it is the record itself. -/
def path : OptionIssue → String
  | missing => ""
  | notARecord _ => ""
  | notText option _ => option
  | empty option => option
  | notAModulePath option => option
  | notOneLine option => option
  | notALevel option _ => option
  | levelNotText option _ => option

def reason : OptionIssue → String
  | missing => "Required"
  | notARecord found => s!"Expected object, received {found}"
  | notText _ found => s!"Expected string, received {found}"
  | empty _ => "String must contain at least 1 character(s)"
  | notAModulePath _ => "must be a Python module path such as '.lib'"
  | notOneLine _ => "must be a single line"
  | notALevel _ value => s!"Invalid enum value. Expected {levelChoices}, received '{value}'"
  | levelNotText _ found => s!"Expected {levelChoices}, received {found}"

def line (issue : OptionIssue) : String := s!"  - {issue.path}: {issue.reason}"

end OptionIssue

/-! ## Causes -/

/-- The kinds of fault that a caller tells apart: the classes of `BindgenError`, and what ends a run
without being one. -/
inductive FaultCategory where
  | parse
  | validation
  | mapping
  | lowering
  /-- A state that well-formed input never leads to. -/
  | internal
  /-- A number outside the range of an operation. -/
  | range
  /-- A value without the form that is asked for. -/
  | conversion
  | usage
  deriving DecidableEq, Repr, Inhabited

/-- The code of a `BindgenError` of the kind. -/
def FaultCategory.code? : FaultCategory → Option String
  | .parse => some "PARSE_ERROR"
  | .validation => some "VALIDATION_ERROR"
  | .mapping => some "MAPPING_ERROR"
  | .lowering => some "LOWERING_ERROR"
  | .internal => some "INTERNAL_ERROR"
  | .range => none
  | .conversion => none
  | .usage => none

inductive Detail where
  | text (value : String)
  | number (value : Int)
  | names (values : List String)
  deriving DecidableEq, Repr, Inhabited

/-- The causes of failure. -/
inductive Fault where
  -- Type expressions.
  | emptyExpression (context : String)
  | optionalWithoutPointer (expression context : String)
  | arrayLengthOutOfRange (expression context : String)
  | integerWidthOutOfRange (expression context : String)
  | unreadableExpression (expression context : String)
  -- Declarations.
  | undeclared (name : String)
  | declaredTwice (name : String)
  | fieldTwice (owner field : String)
  | tagWidthNotPositive (owner : String)
  | tagWidthUnmanageable
  | noVariants (owner : String)
  | variantTwice (owner variant : String)
  | variantTooWide (owner variant : String) (value tagBits : Int)
  | variantsShareValue (owner first second : String) (value : Int)
  | unknownReference (context name : String)
  | arrayLengthNotPositive (context : String)
  | anonymous (type : NativeType) (context : String)
  | valueCycle (path : List String)
  -- Name tables.
  | mappedTwice (table : TableKind) (type : String)
  | mapsUndeclared (table : TableKind) (type : String)
  | mappedInBoth (type : String)
  | targetTaken (first second target : String)
  | unmapped (type context : String)
  | unmappedInDomain (type context : String)
  -- Composition.
  | noClient (document : String)
  | roleUndeclared (role : Role) (type : String)
  | operationRoleNotEnum (type : String)
  | packetRoleNotStruct (type : String)
  | operationTwice (operation : String)
  | operationNotMember (operation operationEnum : String)
  -- Documents.
  | malformedText
  | notARecord (context : String)
  | notAText (context : String)
  | notAnIdentifier (context text : String)
  | versionMissing
  | versionNotInteger
  | withoutText
  | notAList (key : String)
  | kindNotSingle (type : String)
  | kindUnknown (type key : String)
  | tagNotUnsigned (type : String)
  | variantsMissing (type : String)
  | variantNotNumber (owner variant : String)
  | variantNotInteger (owner variant : String)
  | layoutUnknown (owner found : String)
  | fieldsMissing (owner : String)
  | reservedNotBoolean (owner field : String)
  | skipNotAList (index : Nat)
  | arityUnknown (operation : String)
  -- Packed structs.
  | packedSigned (type : NativeType) (context : String)
  | packedHoldsStruct (layout : Layout) (context : String)
  | packedUnsupported (type : NativeType) (context : String)
  -- Lowering.
  | structByValue (layout : Layout) (context : String)
  | signedInteger (type : NativeType) (context : String)
  | noCtypeOfWidth (bits : Int) (context : String)
  | noCtype (type : NativeType) (context : String)
  | pointerTarget (pointee : NativeType) (context : String)
  | notMarshalled (type : NativeType) (context : String)
  | noValueType (type : NativeType) (context : String)
  | noDefault (type : NativeType) (context : String)
  | structWithoutDefault (layout : Layout) (context : String)
  -- Generated classes and methods.
  | signedField (owner field : String) (type : NativeType)
  | skipUndeclared (type member : String)
  | hiddenOperation (operation operationEnum : String)
  | layoutUndefined (type : String)
  | invalidOptions (what : String) (issues : List OptionIssue)
  -- States that checked declarations rule out.
  | aliasOfItself (name : String)
  | anonymousValue (type : NativeType) (context : String)
  | notEnumLike (type : String)
  | bindingOfOther (type : String)
  | recordOfOther (type : String)
  | endlessReferences
  -- Numbers and arguments.
  | notIntegral (number : String)
  | negativeCount (count : Int)
  | unknownArgument (argument : String)
  | missingArgumentValue (flag : String)
  deriving Inhabited

def NativeType.word : NativeType → String
  | .enum _ _ => "enum"
  | .struct _ _ => "struct"
  | type => type.text

namespace Fault

def category : Fault → FaultCategory
  | malformedText => .parse
  | unmapped _ _ | unmappedInDomain _ _ => .mapping
  | packedSigned _ _ | packedHoldsStruct _ _ | packedUnsupported _ _ | structByValue _ _
  | signedInteger _ _ | noCtypeOfWidth _ _ | noCtype _ _ | pointerTarget _ _ | notMarshalled _ _
  | noValueType _ _ | noDefault _ _ | structWithoutDefault _ _ | signedField _ _ _
  | hiddenOperation _ _ | layoutUndefined _ => .lowering
  | aliasOfItself _ | anonymousValue _ _ | notEnumLike _ | bindingOfOther _ | recordOfOther _ =>
    .internal
  | endlessReferences | tagWidthUnmanageable | notIntegral _ | negativeCount _ => .range
  | withoutText => .conversion
  | unknownArgument _ | missingArgumentValue _ => .usage
  | _ => .validation

def message : Fault → String
  | emptyExpression context => s!"Type expression for {context} must not be empty"
  | optionalWithoutPointer expression context =>
    s!"Optional type '{expression}' in {context} must wrap a pointer"
  | arrayLengthOutOfRange expression context =>
    s!"Array length in '{expression}' ({context}) must be a positive integer"
  | integerWidthOutOfRange expression context =>
    s!"Integer width in '{expression}' ({context}) must be between 1 and 128"
  | unreadableExpression expression context =>
    s!"Cannot parse type expression '{expression}' in {context}"
  | undeclared name => s!"Type '{name}' is not declared in any loaded schema"
  | declaredTwice name => s!"Duplicate type definition '{name}'"
  | fieldTwice owner field => s!"Struct '{owner}' declares field '{field}' more than once"
  | tagWidthNotPositive owner => s!"Enum '{owner}' must have a positive tag width"
  | tagWidthUnmanageable => "Maximum BigInt size exceeded"
  | noVariants owner => s!"Enum '{owner}' must include at least one variant"
  | variantTwice owner variant => s!"Enum '{owner}' declares variant '{variant}' more than once"
  | variantTooWide owner variant _ tagBits =>
    s!"Variant '{variant}' in enum '{owner}' does not fit in u{countText tagBits}"
  | variantsShareValue owner first second value =>
    s!"Variants '{first}' and '{second}' in enum '{owner}' share the value {value}"
  | unknownReference context name => s!"Type '{context}' references unknown type '{name}'"
  | arrayLengthNotPositive context => s!"Array in '{context}' must have a positive length"
  | anonymous type context =>
    s!"Anonymous {type.word} in '{context}' must be declared and referenced by name"
  | valueCycle path => "Cyclic type reference detected: " ++ String.intercalate " -> " path
  | mappedTwice table type =>
    s!"Type '{type}' is mapped more than once in the {table.text} table"
  | mapsUndeclared table type => s!"The {table.text} table maps undeclared type '{type}'"
  | mappedInBoth type => s!"Type '{type}' is mapped in both the protocol and the domain table"
  | targetTaken first second target =>
    s!"Types '{first}' and '{second}' are both mapped to the name '{target}'"
  | unmapped type context =>
    s!"Type '{type}' (referenced by {context}) has no protocol or domain mapping"
  | unmappedInDomain type context =>
    s!"Type '{type}' (referenced by {context}) has no domain mapping"
  | noClient document => s!"Protocol schema '{document}' must describe its client library"
  | roleUndeclared role type => s!"Client role '{role.text}' names undeclared type '{type}'"
  | operationRoleNotEnum type =>
    s!"Client role 'operation' must name an enum, '{type}' is not one"
  | packetRoleNotStruct type =>
    s!"Client role 'packet' must name an extern struct, '{type}' is not one"
  | operationTwice operation => s!"Operation '{operation}' is declared more than once"
  | operationNotMember operation operationEnum =>
    s!"Operation '{operation}' is not a member of the operation enum '{operationEnum}'"
  | malformedText => "Failed to parse schema YAML"
  | notARecord context => s!"{context} must be an object"
  | notAText context => s!"{context} must be a non-empty string"
  | notAnIdentifier context text => s!"{context} must be an identifier, got '{text}'"
  | versionMissing => "schema.version is required"
  | versionNotInteger => "schema.version must be an integer"
  | withoutText => "Cannot convert object to primitive value"
  | notAList key => s!"Schema '{key}' must be an array"
  | kindNotSingle type => s!"Type '{type}' kind must be a single-entry object"
  | kindUnknown type key => s!"Type '{type}' uses unsupported kind '{key}'"
  | tagNotUnsigned type => s!"Enum '{type}' must use an unsigned integer tag"
  | variantsMissing type => s!"Enum '{type}' must include at least one variant"
  | variantNotNumber owner variant =>
    s!"Variant '{variant}' in enum '{owner}' must define an integer 'value'"
  | variantNotInteger owner variant => s!"Variant '{variant}' in enum '{owner}' has invalid value"
  | layoutUnknown owner found => s!"Struct '{owner}' has unknown layout '{found}'"
  | fieldsMissing owner => s!"Struct '{owner}' must define a 'fields' array"
  | reservedNotBoolean owner field =>
    s!"Field '{field}' in struct '{owner}' has a non-boolean 'reserved' flag"
  | skipNotAList index => s!"mappings[{index}].skip must be an array of names"
  | arityUnknown operation => s!"Operation '{operation}' must declare arity 'single' or 'batch'"
  | packedSigned type context => s!"Packed field {context} must be unsigned, got {type.text}"
  | packedHoldsStruct layout context =>
    s!"Packed field {context} cannot hold a {layout.text} struct"
  | packedUnsupported type context => s!"Packed field {context} has unsupported type {type.text}"
  | structByValue layout context =>
    s!"{context} holds an {layout.text} struct by value, which has no ctypes primitive"
  | signedInteger type context =>
    s!"{context} is a signed integer ({type.text}); only unsigned integers are supported"
  | noCtypeOfWidth bits context =>
    s!"{context} needs a u{countText bits}, which has no ctypes mapping"
  | noCtype type context => s!"{context} has type {type.text}, which has no ctypes mapping"
  | pointerTarget pointee context =>
    s!"{context} points to {pointee.text}; pointers must target anyopaque or a declared type"
  | notMarshalled type context =>
    s!"{context} has type {type.text}, which cannot be marshalled as a batch element"
  | noValueType type context => s!"{context} has type {type.text}, which has no Python value type"
  | noDefault type context => s!"{context} has type {type.text}, which has no Python default"
  | structWithoutDefault layout context =>
    s!"{context} holds an {layout.text} struct by value and has no default"
  | signedField owner field type =>
    s!"Field '{field}' of struct '{owner}' is a signed integer ({type.text}); " ++
      "only unsigned integers are supported"
  | skipUndeclared type member =>
    s!"Skip list for '{type}' names '{member}', which '{type}' does not declare"
  | hiddenOperation operation operationEnum =>
    s!"Operation '{operation}' is hidden from '{operationEnum}' and cannot be exposed as a method"
  | layoutUndefined type => s!"Struct '{type}' has no defined layout and cannot be bound"
  | invalidOptions what issues =>
    s!"Invalid {what}:\n" ++ String.intercalate "\n" (issues.map OptionIssue.line)
  | aliasOfItself name => s!"Alias '{name}' resolves to itself"
  | anonymousValue type context => s!"Anonymous {type.word} reached domain lowering at {context}"
  | notEnumLike type => s!"Type '{type}' is neither an enum nor a packed struct"
  | bindingOfOther type =>
    s!"Structure bindings are only generated for extern structs, not '{type}'"
  | recordOfOther type => s!"Value records are only generated for extern structs, not '{type}'"
  | endlessReferences => "Maximum call stack size exceeded"
  | notIntegral number =>
    s!"The number {number} cannot be converted to a BigInt because it is not an integer"
  | negativeCount count => s!"Invalid count value: {countText count}"
  | unknownArgument argument => s!"Unknown argument '{argument}'"
  | missingArgumentValue flag => s!"Expected value after {flag}"

/-- What a fault is about, under fixed keys. -/
def details : Fault → List (String × Detail)
  | emptyExpression context => [("context", .text context)]
  | optionalWithoutPointer expression context | arrayLengthOutOfRange expression context
  | integerWidthOutOfRange expression context | unreadableExpression expression context =>
    [("context", .text context), ("expression", .text expression)]
  | undeclared name | declaredTwice name | aliasOfItself name => [("typeName", .text name)]
  | fieldTwice owner field | signedField owner field _ =>
    [("typeName", .text owner), ("field", .text field)]
  | tagWidthNotPositive owner | noVariants owner => [("typeName", .text owner)]
  | variantTwice owner variant => [("typeName", .text owner), ("variant", .text variant)]
  | variantTooWide owner variant value _ =>
    [("typeName", .text owner), ("variant", .text variant), ("value", .text (toString value))]
  | variantsShareValue owner _ second _ => [("typeName", .text owner), ("variant", .text second)]
  | unknownReference context name => [("typeName", .text context), ("referencedType", .text name)]
  | arrayLengthNotPositive context | anonymous _ context => [("typeName", .text context)]
  | valueCycle path => [("cycle", .names path)]
  | mappedTwice table type | mapsUndeclared table type =>
    [("table", .text table.text), ("typeName", .text type)]
  | mappedInBoth type => [("typeName", .text type)]
  | targetTaken _ second target => [("typeName", .text second), ("targetName", .text target)]
  | unmapped type context | unmappedInDomain type context =>
    [("typeName", .text type), ("context", .text context)]
  | noClient document => [("schema", .text document)]
  | roleUndeclared role type => [("role", .text role.text), ("typeName", .text type)]
  | operationRoleNotEnum type | packetRoleNotStruct type | layoutUndefined type
  | notEnumLike type | bindingOfOther type | recordOfOther type => [("typeName", .text type)]
  | operationTwice operation | hiddenOperation operation _ => [("operation", .text operation)]
  | operationNotMember operation operationEnum =>
    [("operation", .text operation), ("operationEnum", .text operationEnum)]
  | packedSigned _ context | packedHoldsStruct _ context | packedUnsupported _ context
  | structByValue _ context | signedInteger _ context | noCtype _ context
  | pointerTarget _ context | notMarshalled _ context | noValueType _ context
  | noDefault _ context | structWithoutDefault _ context | anonymousValue _ context =>
    [("context", .text context)]
  | noCtypeOfWidth bits context => [("context", .text context), ("bits", .number bits)]
  | skipUndeclared type member => [("typeName", .text type), ("skip", .text member)]
  | _ => []

end Fault
end NativeBindings
