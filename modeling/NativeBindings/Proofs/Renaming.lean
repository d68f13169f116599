import NativeBindings.Proofs.Composed

/-!
# Renaming native names

A renaming gives other names to native declarations, wherever they stand: declarations, mentions,
name tables, roles. It is injective, so that different declarations stay different. No rule looks at
a name other than to compare it: renamed declarations, name tables and compositions satisfy the
rules exactly if the original ones do (`Registry.sound_rename_iff`, `Names.sound_rename_iff`,
`Composition.sound_rename_iff`), and renamed documents are composed to the composition renamed
(`Composition.compose_rename_eq_ok_iff`).
-/
namespace NativeBindings

mutual

/-- A type with other names for the declarations that it mentions, behind pointers too. -/
def NativeType.rename (ρ : String ↪ String) : NativeType → NativeType
  | .ref name => .ref (ρ name)
  | .array element length => .array (element.rename ρ) length
  | .pointer pointee nullable => .pointer (pointee.rename ρ) nullable
  | .struct layout fields => .struct layout (renameFields ρ fields)
  | .enum tagBits variants => .enum tagBits variants
  | .bool => .bool
  | .void => .void
  | .untyped => .untyped
  | .int bits signed => .int bits signed
  | .float bits => .float bits

/-- Fields with other names for the declarations that their types mention. -/
def renameFields (ρ : String ↪ String) : List (Field NativeType) → List (Field NativeType)
  | [] => []
  | ⟨name, type, reserved⟩ :: rest => ⟨name, type.rename ρ, reserved⟩ :: renameFields ρ rest

end

/-- A declaration under another name. -/
def Declaration.rename (ρ : String ↪ String) (d : Declaration) : Declaration :=
  ⟨ρ d.name, d.type.rename ρ⟩

/-- A mapping of a renamed type. -/
def Mapping.rename (ρ : String ↪ String) (m : Mapping) : Mapping := { m with type := ρ m.type }

/-- An operation on renamed types. -/
def Operation.rename (ρ : String ↪ String) (o : Operation) : Operation :=
  { o with event := o.event.rename ρ, result := o.result.rename ρ }

/-- Roles for renamed declarations. -/
def Roles.rename (ρ : String ↪ String) (roles : Roles) : Roles :=
  ⟨ρ roles.operation, ρ roles.status, ρ roles.packet, ρ roles.handle⟩

/-- A client with renamed declarations in its roles. -/
def Client.rename (ρ : String ↪ String) (client : Client) : Client :=
  { client with roles := client.roles.rename ρ }

/-- A document in which every native name is replaced, wherever it stands. -/
def Document.rename (ρ : String ↪ String) (document : Document) : Document :=
  { document with
    types := document.types.map (·.rename ρ)
    mappings := document.mappings.map (·.rename ρ)
    operations := document.operations.map (·.rename ρ)
    client := document.client.map (·.rename ρ) }

variable {ρ : String ↪ String}

/-! ## Types -/

theorem renameFields_eq_map (ρ : String ↪ String) (fields : Fields) :
    renameFields ρ fields = fields.map fun f => { f with type := f.type.rename ρ } := by
  induction fields with
  | nil => rfl
  | cons f rest ih => rw [renameFields, List.map_cons, ih]

mutual

/-- A renamed type holds by value what the type does, under other names. -/
theorem NativeType.valueRefs_rename (ρ : String ↪ String) :
    ∀ type : NativeType, (type.rename ρ).valueRefs = type.valueRefs.map ρ
  | .ref _ => rfl
  | .array element _ => by
    simp only [NativeType.rename, NativeType.valueRefs]
    exact element.valueRefs_rename ρ
  | .struct _ fields => by
    simp only [NativeType.rename, NativeType.valueRefs]
    exact fieldValueRefs_rename ρ fields
  | .bool | .void | .untyped => rfl
  | .int _ _ | .float _ | .pointer _ _ | .enum _ _ => rfl

theorem fieldValueRefs_rename (ρ : String ↪ String) :
    ∀ fields : Fields, fieldValueRefs (renameFields ρ fields) = (fieldValueRefs fields).map ρ
  | [] => rfl
  | ⟨_, type, _⟩ :: rest => by
    have first := type.valueRefs_rename ρ
    have others := fieldValueRefs_rename ρ rest
    simp only [renameFields, fieldValueRefs, List.map_append, first, others]

end

namespace NativeType

theorem isNominal_rename (ρ : String ↪ String) (type : NativeType) :
    (type.rename ρ).isNominal = type.isNominal := by
  cases type <;> rfl

theorem rename_actsInside (ρ : String ↪ String) : ActsInside (NativeType.rename ρ) where
  enum _ _ := rfl
  struct layout fields := by rw [rename, renameFields_eq_map]
  isNominal := isNominal_rename ρ

theorem rename_eq_enum_iff {type : NativeType} {tagBits : Int} {variants : List Variant} :
    type.rename ρ = .enum tagBits variants ↔ type = .enum tagBits variants := by
  cases type <;> simp [rename]

theorem rename_eq_struct_iff {type : NativeType} {layout : Layout} {fields : Fields} :
    type.rename ρ = .struct layout fields ↔
      ∃ fields', type = .struct layout fields' ∧ renameFields ρ fields' = fields := by
  cases type <;> simp [rename, and_assoc]

theorem wellFormed_rename_iff {types types' : Registry}
    (same : ∀ name, types'.has (ρ name) = types.has name) (type : NativeType) :
    (type.rename ρ).WellFormed types' ↔ type.WellFormed types := by
  fun_induction NativeType.WellFormed types type with
  | case1 name => rw [rename, WellFormed, same]
  | case2 element length ih => rw [rename, WellFormed, ih]
  | case3 pointee nullable ih => rw [rename, WellFormed, ih]
  | case4 | case5 => simp [rename, WellFormed]
  | case6 type => cases type <;> simp_all [rename, WellFormed]

end NativeType

/-! ## Declarations -/

theorem names_rename (ρ : String ↪ String) (declarations : List Declaration) :
    (declarations.map (·.rename ρ)).map (·.name) = (declarations.map (·.name)).map ρ := by
  simp [Declaration.rename, Function.comp_def]

namespace Registry

/-- The declarations under other names. -/
def rename (ρ : String ↪ String) (types : Registry) : Registry where
  declarations := types.declarations.map (·.rename ρ)
  distinct := by
    rw [names_rename]
    exact types.distinct.map ρ.injective

variable {types : Registry}

theorem find?_rename (ρ : String ↪ String) (types : Registry) (name : String) :
    (types.rename ρ).find? (ρ name) = (types.find? name).map (·.rename ρ) := by
  have same : (fun d : Declaration => (d.rename ρ).name == ρ name) = fun d => d.name == name := by
    funext d
    rw [Bool.eq_iff_iff, beq_iff_eq, beq_iff_eq]
    exact ρ.injective.eq_iff
  rw [find?, rename, List.find?_map]
  exact congrArg _ (congrArg (List.find? · types.declarations) same)

theorem has_rename (ρ : String ↪ String) (types : Registry) (name : String) :
    (types.rename ρ).has (ρ name) = types.has name := by
  rw [Bool.eq_iff_iff, has_iff, has_iff]
  simp [rename, Declaration.rename]

/-- A renamed declaration holds another by value exactly if the declarations they come from do. -/
theorem holdsByValue_rename_iff {a b : String} : (types.rename ρ).HoldsByValue a b ↔
    ∃ a' b', ρ a' = a ∧ ρ b' = b ∧ types.HoldsByValue a' b' := by
  constructor
  · rintro ⟨d, found, mention⟩
    obtain ⟨mem, owner⟩ := find?_eq_some_iff.mp found
    obtain ⟨origin, declared, rfl⟩ := List.mem_map.mp mem
    rw [Declaration.rename, NativeType.valueRefs_rename, List.mem_map] at mention
    obtain ⟨b', mention, rfl⟩ := mention
    have found' := find?_eq_some_iff.mpr ⟨declared, rfl⟩
    exact ⟨origin.name, b', owner, rfl, origin, found', mention⟩
  · rintro ⟨a', b', rfl, rfl, d, found, mention⟩
    refine ⟨d.rename ρ, ?_, ?_⟩
    · rw [find?_rename, found]
      rfl
    · rw [Declaration.rename, NativeType.valueRefs_rename]
      exact List.mem_map_of_mem mention

open Relation in
theorem acyclic_rename_iff : (types.rename ρ).Acyclic ↔ types.Acyclic := by
  constructor
  · intro acyclic name cycle
    refine acyclic (ρ name) (cycle.lift ρ fun a b edge => ?_)
    exact holdsByValue_rename_iff.mpr ⟨a, b, rfl, rfl, edge⟩
  · intro acyclic name cycle
    -- Every step of a walk comes from one between the declarations before the renaming.
    have origin : ∀ {a b}, TransGen (types.rename ρ).HoldsByValue a b →
        ∃ a' b', ρ a' = a ∧ ρ b' = b ∧ TransGen types.HoldsByValue a' b' := by
      intro a b walk
      induction walk with
      | single edge =>
        obtain ⟨a', b', ha, hb, edge⟩ := holdsByValue_rename_iff.mp edge
        exact ⟨a', b', ha, hb, .single edge⟩
      | tail _ edge ih =>
        obtain ⟨a', b', ha, hb, walk⟩ := ih
        obtain ⟨b'', c', hb', hc, edge⟩ := holdsByValue_rename_iff.mp edge
        obtain rfl : b'' = b' := ρ.injective (hb'.trans hb.symm)
        exact ⟨a', c', ha, hc, .tail walk edge⟩
    obtain ⟨a, b, ha, hb, cycle⟩ := origin cycle
    obtain rfl : a = b := ρ.injective (ha.trans hb.symm)
    exact acyclic a cycle

end Registry

theorem Registry.sound_rename_iff {types : Registry} :
    (types.rename ρ).Sound ↔ types.Sound := by
  have checked : (∀ d ∈ (types.rename ρ).declarations,
      Check.declaration (types.rename ρ) d = .ok ()) ↔
      ∀ d ∈ types.declarations, Check.declaration types d = .ok () := by
    simp only [rename, List.forall_mem_map]
    exact forall₂_congr fun d _ => Check.declaration_eq_ok_iff_of_actsInside
      (NativeType.rename_actsInside ρ) rfl (NativeType.wellFormed_rename_iff (types.has_rename ρ))
  constructor
  · rintro ⟨each, acyclic⟩
    exact ⟨checked.mp each, acyclic_rename_iff.mp acyclic⟩
  · rintro ⟨each, acyclic⟩
    exact ⟨checked.mpr each, acyclic_rename_iff.mpr acyclic⟩

/-! ## Name tables -/

theorem types_rename (ρ : String ↪ String) (mappings : List Mapping) :
    (mappings.map (·.rename ρ)).map (·.type) = (mappings.map (·.type)).map ρ := by
  simp [Mapping.rename, Function.comp_def]

theorem NameTable.find?_rename {table table' : NameTable}
    (h : table'.mappings = table.mappings.map (·.rename ρ)) (type : String) :
    table'.find? (ρ type) = (table.find? type).map (·.rename ρ) := by
  have same : (fun m : Mapping => (m.rename ρ).type == ρ type) = fun m => m.type == type := by
    funext m
    rw [Bool.eq_iff_iff, beq_iff_eq, beq_iff_eq]
    exact ρ.injective.eq_iff
  rw [find?, find?, h, List.find?_map]
  exact congrArg _ (congrArg (List.find? · table.mappings) same)

theorem NameTable.lookup_rename {table table' : NameTable}
    (h : table'.mappings = table.mappings.map (·.rename ρ)) (type : String) :
    table'.lookup (ρ type) = table.lookup type := by
  rw [lookup, lookup, find?_rename h, Option.map_map]
  rfl

/-- A table of renamed types. -/
def NameTable.rename (ρ : String ↪ String) (table : NameTable) : NameTable where
  kind := table.kind
  mappings := table.mappings.map (·.rename ρ)
  distinct := by
    rw [types_rename]
    exact table.distinct.map ρ.injective

namespace Names

/-- The names of renamed types. -/
def rename (ρ : String ↪ String) (names : Names) : Names :=
  ⟨names.types.rename ρ, names.protocol.rename ρ, names.domain.rename ρ⟩

theorem lookup_rename (ρ : String ↪ String) (names : Names) (type : String) :
    (names.rename ρ).lookup (ρ type) = names.lookup type := by
  have protocol : (names.rename ρ).protocol.lookup (ρ type) = names.protocol.lookup type :=
    NameTable.lookup_rename rfl type
  have domain : (names.rename ρ).domain.lookup (ρ type) = names.domain.lookup type :=
    NameTable.lookup_rename rfl type
  rw [lookup, lookup, protocol, domain]

theorem sound_rename_iff {names : Names} : (names.rename ρ).Sound ↔ names.Sound := by
  have all : (names.rename ρ).mappings = names.mappings.map (·.rename ρ) := by
    simp [mappings, rename, NameTable.rename]
  have targets : (names.rename ρ).mappings.map (·.name) = names.mappings.map (·.name) := by
    simp [all, Mapping.rename, Function.comp_def]
  have has (m : Mapping) : (names.rename ρ).types.has (m.rename ρ).type = names.types.has m.type :=
    names.types.has_rename ρ m.type
  have lookup (m : Mapping) : (names.rename ρ).protocol.lookup (m.rename ρ).type =
      names.protocol.lookup m.type := NameTable.lookup_rename rfl m.type
  have apart : (∀ m ∈ (names.rename ρ).domain.mappings,
      (names.rename ρ).protocol.lookup m.type = none) ↔
      ∀ m ∈ names.domain.mappings, names.protocol.lookup m.type = none := by
    show (∀ m ∈ names.domain.mappings.map (·.rename ρ), _) ↔ _
    simp only [List.forall_mem_map, lookup]
  constructor
  · rintro ⟨declared, free, distinct⟩
    rw [all, List.forall_mem_map] at declared
    rw [targets] at distinct
    exact ⟨fun m hm => (has m).symm.trans (declared m hm), apart.mp free, distinct⟩
  · rintro ⟨declared, free, distinct⟩
    refine ⟨?_, apart.mpr free, targets ▸ distinct⟩
    rw [all, List.forall_mem_map]
    exact fun m hm => (has m).trans (declared m hm)

end Names

/-! ## Compositions -/

theorem Roles.get_rename (roles : Roles) (role : Role) :
    (roles.rename ρ).get role = ρ (roles.get role) := by
  cases role <;> rfl

namespace Composition

/-- The composition of renamed documents. -/
def rename (ρ : String ↪ String) (c : Composition) : Composition :=
  { c with
    names := c.names.rename ρ
    operations := c.operations.map (·.rename ρ)
    client := c.client.rename ρ }

variable {c : Composition}

theorem members_rename (type : NativeType) : members (type.rename ρ) = members type := by
  cases type <;> rfl

/-- A renamed composition satisfies the rules exactly if the composition does. -/
theorem sound_rename_iff : (c.rename ρ).Sound ↔ c.Sound := by
  have role (role : Role) : (c.rename ρ).client.roles.get role = ρ (c.client.roles.get role) :=
    Roles.get_rename c.client.roles role
  have mapped (role' : Role) : (c.rename ρ).names.lookup ((c.rename ρ).client.roles.get role') =
      c.names.lookup (c.client.roles.get role') := by
    rw [role]
    exact c.names.lookup_rename ρ _
  have declared (role' : Role) : (c.rename ρ).types.has ((c.rename ρ).client.roles.get role') =
      c.types.has (c.client.roles.get role') := by
    rw [role]
    exact c.types.has_rename ρ _
  have operation : (c.rename ρ).types.find? (c.rename ρ).client.roles.operation =
      (c.types.find? c.client.roles.operation).map (·.rename ρ) := c.types.find?_rename ρ _
  have packet : (c.rename ρ).types.find? (c.rename ρ).client.roles.packet =
      (c.types.find? c.client.roles.packet).map (·.rename ρ) := c.types.find?_rename ρ _
  have operationEnum : (∃ d tagBits variants,
      (c.rename ρ).types.find? (c.rename ρ).client.roles.operation = some d ∧
        d.type = .enum tagBits variants) ↔
      ∃ d tagBits variants, c.types.find? c.client.roles.operation = some d ∧
        d.type = .enum tagBits variants := by
    simp [operation, Declaration.rename, NativeType.rename_eq_enum_iff]
  have packetStruct : (∃ d fields,
      (c.rename ρ).types.find? (c.rename ρ).client.roles.packet = some d ∧
        d.type = .struct .cAbi fields) ↔
      ∃ d fields, c.types.find? c.client.roles.packet = some d ∧ d.type = .struct .cAbi fields := by
    simp [packet, Declaration.rename, NativeType.rename_eq_struct_iff]
  have wellFormed : (∀ o ∈ (c.rename ρ).operations,
      o.event.WellFormed (c.rename ρ).types ∧ o.result.WellFormed (c.rename ρ).types) ↔
      ∀ o ∈ c.operations, o.event.WellFormed c.types ∧ o.result.WellFormed c.types := by
    have same := NativeType.wellFormed_rename_iff (c.types.has_rename ρ)
    show (∀ o ∈ c.operations.map (·.rename ρ), _) ↔ _
    rw [List.forall_mem_map]
    exact forall₂_congr fun o _ => and_congr (same o.event) (same o.result)
  have named : (c.rename ρ).operations.map (·.name) = c.operations.map (·.name) := by
    simp [rename, Operation.rename, Function.comp_def]
  have isMember : (∀ d, (c.rename ρ).types.find? (c.rename ρ).client.roles.operation = some d →
      ∀ o ∈ (c.rename ρ).operations, o.name ∈ members d.type) ↔
      ∀ d, c.types.find? c.client.roles.operation = some d →
        ∀ o ∈ c.operations, o.name ∈ members d.type := by
    simp only [operation, Option.map_eq_some_iff]
    simp [rename, Operation.rename, Declaration.rename, members_rename]
  constructor
  · intro sound
    exact {
      types := Registry.sound_rename_iff.mp sound.types
      names := Names.sound_rename_iff.mp sound.names
      roleMapped := fun role => mapped role ▸ sound.roleMapped role
      roleDeclared := fun role => declared role ▸ sound.roleDeclared role
      operationEnum := operationEnum.mp sound.operationEnum
      packetStruct := packetStruct.mp sound.packetStruct
      wellFormed := wellFormed.mp sound.wellFormed
      operationsDistinct := named ▸ sound.operationsDistinct
      isMember := isMember.mp sound.isMember }
  · intro sound
    exact {
      types := Registry.sound_rename_iff.mpr sound.types
      names := Names.sound_rename_iff.mpr sound.names
      roleMapped := fun role => (mapped role).symm ▸ sound.roleMapped role
      roleDeclared := fun role => (declared role).symm ▸ sound.roleDeclared role
      operationEnum := operationEnum.mpr sound.operationEnum
      packetStruct := packetStruct.mpr sound.packetStruct
      wellFormed := wellFormed.mpr sound.wellFormed
      operationsDistinct := named.symm ▸ sound.operationsDistinct
      isMember := isMember.mpr sound.isMember }

variable {protocol domain : Document}

theorem MadeOf.rename (h : c.MadeOf protocol domain) :
    (c.rename ρ).MadeOf (protocol.rename ρ) (domain.rename ρ) where
  protocolMetadata := h.protocolMetadata
  domainMetadata := h.domainMetadata
  client := by
    show protocol.client.map (·.rename ρ) = some (c.client.rename ρ)
    rw [h.client]
    rfl
  declarations := by
    show c.types.declarations.map (·.rename ρ) = protocol.types.map (·.rename ρ) ++
      domain.types.map (·.rename ρ)
    rw [h.declarations, List.map_append]
  protocolTable := by
    refine ⟨?_, h.protocolTable.2⟩
    show c.names.protocol.mappings.map (·.rename ρ) = protocol.mappings.map (·.rename ρ)
    rw [h.protocolTable.1]
  domainTable := by
    refine ⟨?_, h.domainTable.2⟩
    show c.names.domain.mappings.map (·.rename ρ) = domain.mappings.map (·.rename ρ)
    rw [h.domainTable.1]
  operations := by
    show c.operations.map (·.rename ρ) = protocol.operations.map (·.rename ρ) ++
      domain.operations.map (·.rename ρ)
    rw [h.operations, List.map_append]

/-- Whatever is made of renamed documents is a composition of the documents, renamed. -/
theorem MadeOf.exists_of_rename {c' : Composition}
    (h : c'.MadeOf (protocol.rename ρ) (domain.rename ρ)) :
    ∃ c : Composition, c.MadeOf protocol domain ∧ c' = c.rename ρ := by
  have hclient : protocol.client.map (·.rename ρ) = some c'.client := h.client
  obtain ⟨client, hclient, -⟩ := Option.map_eq_some_iff.mp hclient
  have declarations : c'.types.declarations =
      (protocol.types ++ domain.types).map (·.rename ρ) := by
    rw [List.map_append]
    exact h.declarations
  have distinct := c'.types.distinct
  have distinct' := c'.names.protocol.distinct
  have distinct'' := c'.names.domain.distinct
  rw [declarations, names_rename] at distinct
  rw [h.protocolTable.1, Document.rename, types_rename] at distinct'
  rw [h.domainTable.1, Document.rename, types_rename] at distinct''
  let c : Composition :=
    { protocol := protocol.metadata
      domain := domain.metadata
      names :=
        { types := ⟨protocol.types ++ domain.types, distinct.of_map ρ⟩
          protocol := ⟨.protocol, protocol.mappings, distinct'.of_map ρ⟩
          domain := ⟨.domain, domain.mappings, distinct''.of_map ρ⟩ }
      operations := protocol.operations ++ domain.operations
      client }
  have made : c.MadeOf protocol domain := ⟨rfl, rfl, hclient, rfl, ⟨rfl, rfl⟩, ⟨rfl, rfl⟩, rfl⟩
  exact ⟨c, made, h.unique made.rename⟩

/-- Renamed documents are composed exactly if the documents are, to the composition renamed. -/
theorem compose_rename_eq_ok_iff {c' : Composition} :
    compose (protocol.rename ρ) (domain.rename ρ) = .ok c' ↔
      ∃ c, compose protocol domain = .ok c ∧ c' = c.rename ρ := by
  simp only [compose_eq_ok_iff]
  constructor
  · rintro ⟨made, sound⟩
    obtain ⟨c, origin, rfl⟩ := made.exists_of_rename
    exact ⟨c, ⟨origin, sound_rename_iff.mp sound⟩, rfl⟩
  · rintro ⟨c, ⟨made, sound⟩, rfl⟩
    exact ⟨made.rename, sound_rename_iff.mpr sound⟩

end Composition

end NativeBindings
