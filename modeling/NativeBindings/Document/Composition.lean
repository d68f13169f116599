import NativeBindings.Native.Registry

/-!
# Composition

The generated names of declarations, and what two documents come to when each supplies a part of
them.
-/
namespace NativeBindings

/-!
## Name tables

A name table maps native declarations to generated names, each at most once. `Names` views the
protocol table and the domain table as one: every mapped type is declared, none is in both tables,
and no generated name is used twice.
-/

/-- Mappings of pairwise distinct types, in order (`MappingTable`). -/
structure NameTable where
  kind : TableKind
  mappings : List Mapping
  distinct : (mappings.map (·.type)).Nodup

namespace NameTable

theorem eq_of_mappings {table table' : NameTable} (mappings : table.mappings = table'.mappings)
    (kind : table.kind = table'.kind) : table = table' := by
  cases table
  cases table'
  cases mappings
  cases kind
  rfl

def empty (kind : TableKind) : NameTable := ⟨kind, [], by simp⟩

instance : Inhabited NameTable := ⟨empty .protocol⟩

def find? (table : NameTable) (type : String) : Option Mapping :=
  table.mappings.find? (·.type == type)

def lookup (table : NameTable) (type : String) : Option String :=
  (table.find? type).map (·.name)

/-- Adds a mapping at the end; its type must be new. -/
def insert (table : NameTable) (mapping : Mapping) : Except Fault NameTable :=
  if new : mapping.type ∈ table.mappings.map (·.type) then
    .error (.mappedTwice table.kind mapping.type)
  else .ok
    { kind := table.kind
      mappings := table.mappings ++ [mapping]
      distinct := by
        simp only [List.map_append, List.map_cons, List.map_nil]
        refine List.nodup_append.mpr ⟨table.distinct, by simp, ?_⟩
        intro a ha b hb
        simp only [List.mem_singleton] at hb
        subst hb
        intro same
        exact new (same ▸ ha) }

def ofList (kind : TableKind) (mappings : List Mapping) : Except Fault NameTable :=
  mappings.foldlM insert (empty kind)

theorem mappings_insert {table table' : NameTable} {mapping : Mapping}
    (h : table.insert mapping = .ok table') :
    table'.mappings = table.mappings ++ [mapping] ∧ table'.kind = table.kind := by
  unfold insert at h
  split at h
  · cases h
  · cases h; exact ⟨rfl, rfl⟩

theorem mappings_ofList {kind : TableKind} {mappings : List Mapping} {table : NameTable}
    (h : ofList kind mappings = .ok table) : table.mappings = mappings ∧ table.kind = kind := by
  have grows : ∀ (rest : List Mapping) (start : NameTable), rest.foldlM insert start = .ok table →
      table.mappings = start.mappings ++ rest ∧ table.kind = start.kind := by
    intro rest
    induction rest with
    | nil => intro start h; cases h; simp
    | cons m ms ih =>
      intro start h
      rw [List.foldlM_cons] at h
      cases step : start.insert m with
      | error fault => rw [step] at h; cases h
      | ok next =>
        rw [step] at h
        obtain ⟨same, sameKind⟩ := ih next h
        obtain ⟨added, keptKind⟩ := mappings_insert step
        rw [same, sameKind, added, keptKind]
        simp
  simpa [empty] using grows mappings (empty kind) h

theorem foldlM_insert_of_distinct {rest : List Mapping} (start : NameTable)
    (h : ((start.mappings ++ rest).map (·.type)).Nodup) :
    rest.foldlM insert start = .ok ⟨start.kind, start.mappings ++ rest, h⟩ := by
  induction rest generalizing start with
  | nil => simp [pure, Except.pure]
  | cons m ms ih =>
    have new : m.type ∉ start.mappings.map (·.type) := by
      simp only [List.map_append, List.map_cons, List.nodup_append] at h
      exact fun old => h.2.2 _ old _ List.mem_cons_self rfl
    have distinct : ((start.mappings ++ [m]).map (·.type)).Nodup := h.sublist (by simp)
    have step : start.insert m = .ok ⟨start.kind, start.mappings ++ [m], distinct⟩ := by
      simp [insert, new]
    simp only [List.foldlM_cons, step]
    show ms.foldlM insert ⟨start.kind, start.mappings ++ [m], distinct⟩ = _
    simpa using ih ⟨start.kind, start.mappings ++ [m], distinct⟩ (by simpa using h)

/-- A table is made of exactly its mappings. -/
theorem ofList_eq_ok_iff {kind : TableKind} {mappings : List Mapping} {table : NameTable} :
    ofList kind mappings = .ok table ↔ table.mappings = mappings ∧ table.kind = kind := by
  constructor
  · exact mappings_ofList
  · rintro ⟨rfl, rfl⟩
    simpa [ofList, empty] using
      foldlM_insert_of_distinct (empty table.kind) (by simpa [empty] using table.distinct)

theorem find?_eq_some_iff {table : NameTable} {type : String} {m : Mapping} :
    table.find? type = some m ↔ m ∈ table.mappings ∧ m.type = type :=
  find?_key_eq_some_iff table.distinct

theorem lookup_eq_some_iff {table : NameTable} {type name : String} :
    table.lookup type = some name ↔ ∃ m ∈ table.mappings, m.type = type ∧ m.name = name := by
  simp only [lookup, Option.map_eq_some_iff, find?_eq_some_iff, and_assoc]

theorem lookup_eq_none_iff {table : NameTable} {type : String} :
    table.lookup type = none ↔ ∀ m ∈ table.mappings, m.type ≠ type := by
  rw [Option.eq_none_iff_forall_ne_some]
  constructor
  · intro none m hm same
    exact none m.name (lookup_eq_some_iff.mpr ⟨m, hm, same, rfl⟩)
  · intro apart name mapped
    obtain ⟨m, hm, same, -⟩ := lookup_eq_some_iff.mp mapped
    exact apart m hm same

end NameTable

/-- A mapping with the declaration it is of and the table it is in (`ResolvedMapping`). -/
structure NamedDeclaration where
  table : TableKind
  mapping : Mapping
  declaration : Declaration
  deriving Inhabited

/-- Both name tables over the declarations they name (`MappingRegistry`). -/
structure Names where
  types : Registry
  protocol : NameTable
  domain : NameTable
  deriving Inhabited

namespace Names

/-- Checks the mappings of one table. `targets` are the generated names before, with the types they
are of; those of this table are added. -/
def checkTable (types : Registry) (kind : TableKind) (mappedBefore : String → Bool)
    (targets : List (String × String)) : List Mapping → Except Fault (List (String × String))
  | [] => .ok targets
  | mapping :: rest =>
    if !types.has mapping.type then .error (.mapsUndeclared kind mapping.type)
    else if mappedBefore mapping.type then .error (.mappedInBoth mapping.type)
    else match targets.lookup mapping.name with
      | some first => .error (.targetTaken first mapping.type mapping.name)
      | none => checkTable types kind mappedBefore (targets ++ [(mapping.name, mapping.type)]) rest

/-- The protocol table is checked first, then the domain table. -/
def join (types : Registry) (protocol domain : NameTable) : Except Fault Names := do
  let targets ← checkTable types .protocol (fun _ => false) [] protocol.mappings
  let _ ← checkTable types .domain (fun type => (protocol.lookup type).isSome) targets
    domain.mappings
  return { types, protocol, domain }

def build (types : Registry) (protocol domain : List Mapping) : Except Fault Names := do
  let protocol ← NameTable.ofList .protocol protocol
  let domain ← NameTable.ofList .domain domain
  join types protocol domain

def lookup (names : Names) (type : String) : Option String :=
  (names.protocol.lookup type).or (names.domain.lookup type)

def lookupDomain (names : Names) (type : String) : Option String := names.domain.lookup type

/-- The generated name of a type, which must have one (`requireAll`). -/
def require (names : Names) (type context : String) : Except Fault String :=
  match names.lookup type with
  | some name => .ok name
  | none => .error (.unmapped type context)

@[simp]
theorem require_eq_ok_iff {names : Names} {type context name : String} :
    names.require type context = .ok name ↔ names.lookup type = some name := by
  unfold require
  split <;> simp_all

def requireDomain (names : Names) (type context : String) : Except Fault String :=
  match names.lookupDomain type with
  | some name => .ok name
  | none => .error (.unmappedInDomain type context)

def resolve (names : Names) (table : TableKind) (mapping : Mapping) :
    Except Fault NamedDeclaration := do
  return { table, mapping, declaration := ← names.types.get mapping.type }

def domainEntries (names : Names) : Except Fault (List NamedDeclaration) :=
  names.domain.mappings.mapM (names.resolve .domain)

/-- All mappings with their declarations, those of the protocol table first. -/
def all (names : Names) : Except Fault (List NamedDeclaration) := do
  let protocol ← names.protocol.mappings.mapM (names.resolve .protocol)
  let domain ← names.domainEntries
  return protocol ++ domain

end Names

/-!
## Composing documents

A run takes a protocol document, which describes the client library, and a domain document. Their
declarations share one set of names, each supplies one name table, and the operations of both are
taken in document order. What is composed here satisfies every rule that the generator relies on.
-/

/-- Two documents resolved against each other (`ComposedSchema`). -/
structure Composition where
  protocol : Metadata
  domain : Metadata
  names : Names
  operations : List Operation
  client : Client
  deriving Inhabited

namespace Composition

def types (c : Composition) : Registry := c.names.types

def checkRole (names : Names) (client : Client) (role : Role) : Except Fault Unit := do
  let type := client.roles.get role
  if !names.types.has type then throw (.roleUndeclared role type)
  let _ ← names.require type s!"client role '{role.text}'"

/-- Operations must be an enum and packets a struct of the platform's layout
(`validateClientRoles`). -/
def checkRoles (names : Names) (client : Client) : Except Fault Unit := do
  Role.all.forM (checkRole names client)
  let operation ← names.types.get client.roles.operation
  match operation.type with
  | .enum _ _ => pure ()
  | _ => throw (.operationRoleNotEnum operation.name)
  let packet ← names.types.get client.roles.packet
  match packet.type with
  | .struct .cAbi _ => pure ()
  | _ => throw (.packetRoleNotStruct packet.name)

def members : NativeType → List String
  | .enum _ variants => variants.map (·.name)
  | _ => []

/-- Operations have distinct names, which are members of the operation enum, and valid types
(`validateOperations`). `seen` are the names of the operations before. -/
def checkOperations (types : Registry) (operationEnum : String) (members : List String)
    (seen : List String) : List Operation → Except Fault Unit
  | [] => .ok ()
  | operation :: rest =>
    if operation.name ∈ seen then .error (.operationTwice operation.name)
    else if operation.name ∉ members then
      .error (.operationNotMember operation.name operationEnum)
    else do
      Check.type types operation.event s!"operation '{operation.name}' event"
      Check.type types operation.result s!"operation '{operation.name}' result"
      checkOperations types operationEnum members (seen ++ [operation.name]) rest

/-- Composes a protocol document with a domain document (`composeSchemas`). -/
def compose (protocol domain : Document) : Except Fault Composition := do
  let some client := protocol.client | throw (.noClient protocol.metadata.name)
  let types ← Registry.build (protocol.types ++ domain.types)
  let names ← Names.build types protocol.mappings domain.mappings
  let operations := protocol.operations ++ domain.operations
  checkRoles names client
  let operationEnum ← types.get client.roles.operation
  checkOperations types client.roles.operation (members operationEnum.type) [] operations
  return { protocol := protocol.metadata, domain := domain.metadata, names, operations, client }

end Composition
end NativeBindings
