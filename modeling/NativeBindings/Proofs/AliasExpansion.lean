import NativeBindings.Proofs.CompositionsAlike

/-!
# Aliases are transparent

An alias gives a type another name and nothing else. `replaceAliases` puts the type of every alias
in place of the mentions of the alias that two documents hold by value; behind pointers a mention
stays, because a pointer is to the class of a name.

* One replacement keeps all rules (`Composition.Sound.replaceAliases`) and what is generated
  (`Composition.alike_replaceAliases`), and so does any number of them
  (`Composition.compose_iterate_replaceAliases`).
* Every replacement takes a mention of an alias at least one declaration further down
  (`DropsBy.step`), so that after as many as there are declarations none is left.
* `Composition.aliases_transparent` puts both together.
-/
namespace NativeBindings

/-! ## Replacing aliases -/

mutual

/-- A type with other types in place of the mentions that it holds by value. Pointers stay as they
are. -/
def NativeType.substitute (σ : String → NativeType) : NativeType → NativeType
  | .ref name => σ name
  | .array element length => .array (element.substitute σ) length
  | .struct layout fields => .struct layout (substituteFields σ fields)
  | .pointer pointee nullable => .pointer pointee nullable
  | .enum tagBits variants => .enum tagBits variants
  | .bool => .bool
  | .void => .void
  | .untyped => .untyped
  | .int bits signed => .int bits signed
  | .float bits => .float bits

/-- Fields with other types in place of the mentions that they hold by value. -/
def substituteFields (σ : String → NativeType) : List (Field NativeType) → List (Field NativeType)
  | [] => []
  | ⟨name, type, reserved⟩ :: rest =>
    ⟨name, type.substitute σ, reserved⟩ :: substituteFields σ rest

end

/-- The type of an alias. Enums and structs are no aliases. -/
def aliasType? (declared : List Declaration) (name : String) : Option NativeType :=
  ((declared.find? (·.name == name)).map (·.type)).filter (!·.isNominal)

/-- What a mention stands for: the type of an alias, or itself. -/
def unaliased (declared : List Declaration) (name : String) : NativeType :=
  (aliasType? declared name).getD (.ref name)

/-- A type in which every mention of an alias by value is replaced by the alias's type. That type
is taken as it is declared, so it may mention aliases in turn. -/
def NativeType.replaceAliases (declared : List Declaration) (type : NativeType) : NativeType :=
  type.substitute (unaliased declared)

/-- A declaration in which aliases are replaced. -/
def Declaration.replaceAliases (declared : List Declaration) (d : Declaration) : Declaration :=
  { d with type := d.type.replaceAliases declared }

/-- An operation in whose types aliases are replaced. -/
def Operation.replaceAliases (declared : List Declaration) (o : Operation) : Operation :=
  { o with event := o.event.replaceAliases declared, result := o.result.replaceAliases declared }

/-- A document in which aliases are replaced. -/
def Document.replaceAliases (declared : List Declaration) (document : Document) : Document :=
  { document with
    types := document.types.map (·.replaceAliases declared)
    operations := document.operations.map (·.replaceAliases declared) }

/-- The declarations of two documents, which share one set of names. -/
def declarationsOf (documents : Document × Document) : List Declaration :=
  documents.1.types ++ documents.2.types

/-- The operations of two documents. -/
def operationsOf (documents : Document × Document) : List Operation :=
  documents.1.operations ++ documents.2.operations

/-- Replaces the aliases of two documents once, in both of them. -/
def replaceAliases (documents : Document × Document) : Document × Document :=
  (documents.1.replaceAliases (declarationsOf documents),
    documents.2.replaceAliases (declarationsOf documents))

/-- Two documents that hold no alias by value, neither in declarations nor in operations. -/
structure IsExpanded (documents : Document × Document) : Prop where
  declarations : ∀ d ∈ declarationsOf documents, ∀ held ∈ d.type.valueRefs,
    aliasType? (declarationsOf documents) held = none
  operations : ∀ o ∈ operationsOf documents, ∀ held ∈ o.event.valueRefs ++ o.result.valueRefs,
    aliasType? (declarationsOf documents) held = none

/-! ## Types -/

theorem substituteFields_eq_map (σ : String → NativeType) (fields : Fields) :
    substituteFields σ fields = fields.map fun f => { f with type := f.type.substitute σ } := by
  induction fields with
  | nil => rfl
  | cons f rest ih => rw [substituteFields, List.map_cons, ih]

mutual

/-- A type holds by value, in place of a mention, what the type held there does. -/
theorem NativeType.valueRefs_substitute (σ : String → NativeType) :
    ∀ type : NativeType, (type.substitute σ).valueRefs = type.valueRefs.flatMap fun held =>
      (σ held).valueRefs
  | .ref name => by simp [NativeType.substitute, NativeType.valueRefs]
  | .array element _ => by
    simp only [NativeType.substitute, NativeType.valueRefs]
    exact element.valueRefs_substitute σ
  | .struct _ fields => by
    simp only [NativeType.substitute, NativeType.valueRefs]
    exact fieldValueRefs_substitute σ fields
  | .bool | .void | .untyped => rfl
  | .int _ _ | .float _ | .pointer _ _ | .enum _ _ => rfl

theorem fieldValueRefs_substitute (σ : String → NativeType) : ∀ fields : Fields,
    fieldValueRefs (substituteFields σ fields) = (fieldValueRefs fields).flatMap fun held =>
      (σ held).valueRefs
  | [] => rfl
  | ⟨_, type, _⟩ :: rest => by
    have first := type.valueRefs_substitute σ
    have others := fieldValueRefs_substitute σ rest
    simp only [substituteFields, fieldValueRefs, List.flatMap_append, first, others]

end

theorem aliasType?_eq_some_iff {declared : List Declaration} {name : String} {type : NativeType} :
    aliasType? declared name = some type ↔
      (∃ d, declared.find? (·.name == name) = some d ∧ d.type = type) ∧ type.isNominal = false := by
  simp [aliasType?, Option.filter_eq_some_iff]

theorem unaliased_of_alias {declared : List Declaration} {name : String} {type : NativeType}
    (h : aliasType? declared name = some type) : unaliased declared name = type := by
  rw [unaliased, h]
  rfl

theorem unaliased_of_not_alias {declared : List Declaration} {name : String}
    (h : aliasType? declared name = none) : unaliased declared name = .ref name := by
  rw [unaliased, h]
  rfl

theorem isNominal_unaliased (declared : List Declaration) (name : String) :
    (unaliased declared name).isNominal = false := by
  cases h : aliasType? declared name with
  | none => rw [unaliased_of_not_alias h]; rfl
  | some type =>
    rw [unaliased_of_alias h]
    exact (aliasType?_eq_some_iff.mp h).2

/-- Replacing aliases keeps enums, structs and aliases what they are. -/
theorem NativeType.replaceAliases_actsInside (declared : List Declaration) :
    ActsInside (NativeType.replaceAliases declared) where
  enum _ _ := rfl
  struct layout fields := by
    show NativeType.struct layout (substituteFields _ fields) = _
    rw [substituteFields_eq_map]
    rfl
  isNominal type := by
    cases type with
    | ref name => exact isNominal_unaliased declared name
    | _ => rfl

/-! ## Declarations -/

namespace Registry

theorem aliasType?_declarations {types : Registry} {name : String} {type : NativeType} :
    aliasType? types.declarations name = some type ↔
      (∃ d, types.find? name = some d ∧ d.type = type) ∧ type.isNominal = false :=
  aliasType?_eq_some_iff

/-- The declarations with their aliases replaced once. -/
def replaceAliases (types : Registry) : Registry where
  declarations := types.declarations.map (·.replaceAliases types.declarations)
  distinct := by
    rw [List.map_map]
    exact types.distinct

variable {types : Registry}

theorem find?_replaceAliases (types : Registry) (name : String) :
    types.replaceAliases.find? name =
      (types.find? name).map (·.replaceAliases types.declarations) := by
  rw [find?, replaceAliases, List.find?_map]
  rfl

theorem has_replaceAliases (types : Registry) (name : String) :
    types.replaceAliases.has name = types.has name := by
  rw [Bool.eq_iff_iff, has_iff, has_iff]
  simp [replaceAliases, Declaration.replaceAliases]

/-- What is held by value afterwards was held before, directly or through an alias. -/
theorem transGen_of_holdsByValue_replaceAliases {a b : String}
    (h : types.replaceAliases.HoldsByValue a b) : Relation.TransGen types.HoldsByValue a b := by
  obtain ⟨d, found, mention⟩ := h
  rw [find?_replaceAliases] at found
  obtain ⟨origin, found', rfl⟩ := Option.map_eq_some_iff.mp found
  simp only [Declaration.replaceAliases, NativeType.replaceAliases,
    NativeType.valueRefs_substitute, List.mem_flatMap] at mention
  obtain ⟨held, mention, inner⟩ := mention
  have edge : types.HoldsByValue a held := ⟨origin, found', mention⟩
  cases h : aliasType? types.declarations held with
  | none =>
    rw [unaliased_of_not_alias h] at inner
    obtain rfl : b = held := List.mem_singleton.mp inner
    exact .single edge
  | some type =>
    rw [unaliased_of_alias h] at inner
    obtain ⟨⟨d, isAlias, rfl⟩, -⟩ := aliasType?_declarations.mp h
    exact .tail (.single edge) ⟨d, isAlias, inner⟩

namespace Sound

variable (sound : types.Sound)
include sound

theorem wellFormed_replaceAliases_iff (type : NativeType) :
    (type.replaceAliases types.declarations).WellFormed types.replaceAliases ↔
      type.WellFormed types := by
  have same := fun type => NativeType.wellFormed_congr types.has_replaceAliases type
  fun_induction NativeType.WellFormed types type with
  | case1 name =>
    show (unaliased types.declarations name).WellFormed types.replaceAliases ↔ _
    cases h : aliasType? types.declarations name with
    | none =>
      rw [unaliased_of_not_alias h]
      exact same (.ref name)
    | some type =>
      obtain ⟨⟨d, found, rfl⟩, structural⟩ := aliasType?_declarations.mp h
      rw [unaliased_of_alias h, same]
      exact iff_of_true (sound.alias_wellFormed found structural) (has_of_find? found)
  | case2 element length ih => exact and_congr_right' ih
  | case3 pointee nullable => exact same pointee
  | case4 | case5 => exact Iff.rfl
  | case6 type noRef noArray noPointer noEnum noStruct =>
    cases type with
    | ref name => exact absurd rfl (noRef name)
    | array element length => exact absurd rfl (noArray element length)
    | pointer pointee nullable => exact absurd rfl (noPointer pointee nullable)
    | enum tagBits variants => exact absurd rfl (noEnum tagBits variants)
    | struct layout fields => exact absurd rfl (noStruct layout fields)
    | _ => exact Iff.rfl

/-- Replacing aliases keeps declarations valid and makes no cycle. -/
theorem replaceAliases : types.replaceAliases.Sound where
  checked d hd := by
    obtain ⟨origin, declared, rfl⟩ := List.mem_map.mp hd
    exact (Check.declaration_eq_ok_iff_of_actsInside
      (NativeType.replaceAliases_actsInside types.declarations) rfl
      sound.wellFormed_replaceAliases_iff).mpr (sound.checked origin declared)
  acyclic name cycle := by
    have flat : ∀ a b, types.replaceAliases.HoldsByValue a b →
        Relation.TransGen types.HoldsByValue a b :=
      fun a b => transGen_of_holdsByValue_replaceAliases
    exact sound.acyclic name (Relation.TransGen.closed flat _ _ cycle)

end Sound

end Registry

/-! ## Lowering -/

theorem NativeType.pointeesAlike_refl (pointee : NativeType) :
    pointee.PointeesAlike id pointee := by
  cases pointee with
  | untyped => exact .untyped
  | ref name => exact .ref name
  | _ => exact .other (by rintro ⟨⟩) (by rintro _ ⟨⟩) (by rintro ⟨⟩) (by rintro _ ⟨⟩)

theorem NativeType.id_actsAlong : ActsAlong id id where
  toActsInside := id_actsInside
  leaf _ _ := rfl
  array _ _ := rfl
  pointer pointee _ := ⟨pointee, rfl, pointee.pointeesAlike_refl⟩

theorem NativeType.replaceAliases_actsAlong (declared : List Declaration) :
    ActsAlong id (NativeType.replaceAliases declared) where
  toActsInside := replaceAliases_actsInside declared
  leaf type leaf := by
    cases type with
    | ref | array | pointer | enum | struct => cases leaf
    | _ => rfl
  array _ _ := rfl
  pointer pointee _ := ⟨pointee, rfl, pointee.pointeesAlike_refl⟩

/-! ## Compositions -/

namespace Composition

/-- A composition with its aliases replaced once. -/
def replaceAliases (c : Composition) : Composition :=
  { c with
    names := { c.names with types := c.types.replaceAliases }
    operations := c.operations.map (·.replaceAliases c.types.declarations) }

variable {c : Composition} {protocol domain : Document}

theorem MadeOf.replaceAliases (h : c.MadeOf protocol domain) : c.replaceAliases.MadeOf
    (protocol.replaceAliases (protocol.types ++ domain.types))
    (domain.replaceAliases (protocol.types ++ domain.types)) where
  protocolMetadata := h.protocolMetadata
  domainMetadata := h.domainMetadata
  client := h.client
  declarations := by
    show c.types.declarations.map (·.replaceAliases c.types.declarations) = _
    rw [h.declarations, List.map_append]
    rfl
  protocolTable := h.protocolTable
  domainTable := h.domainTable
  operations := by
    show c.operations.map (·.replaceAliases c.types.declarations) = _
    rw [h.declarations, h.operations, List.map_append]
    rfl

theorem find?_replaceAliases (c : Composition) (name : String) :
    c.replaceAliases.types.find? name =
      (c.types.find? name).map (·.replaceAliases c.types.declarations) :=
  c.types.find?_replaceAliases name

/-- Replacing aliases keeps all the rules. -/
theorem Sound.replaceAliases (sound : c.Sound) : c.replaceAliases.Sound where
  types := sound.types.replaceAliases
  names := by
    have has := c.types.has_replaceAliases
    exact ⟨fun m hm => (has m.type).trans (sound.names.declared m hm), sound.names.apart,
      sound.names.distinct⟩
  roleMapped := sound.roleMapped
  roleDeclared role := (c.types.has_replaceAliases _).trans (sound.roleDeclared role)
  operationEnum := by
    obtain ⟨d, tagBits, variants, found, enum⟩ := sound.operationEnum
    refine ⟨d.replaceAliases c.types.declarations, tagBits, variants, ?_, ?_⟩
    · rw [find?_replaceAliases]
      exact congrArg _ found
    · rw [Declaration.replaceAliases, enum]
      rfl
  packetStruct := by
    obtain ⟨d, fields, found, struct⟩ := sound.packetStruct
    refine ⟨d.replaceAliases c.types.declarations,
      substituteFields (unaliased c.types.declarations) fields, ?_, ?_⟩
    · rw [find?_replaceAliases]
      exact congrArg _ found
    · rw [Declaration.replaceAliases, struct]
      rfl
  wellFormed o ho := by
    obtain ⟨origin, declared, rfl⟩ := List.mem_map.mp ho
    obtain ⟨event, result⟩ := sound.wellFormed origin declared
    have wellFormed := sound.types.wellFormed_replaceAliases_iff
    exact ⟨(wellFormed _).mpr event, (wellFormed _).mpr result⟩
  operationsDistinct := by
    show ((c.operations.map _).map _).Nodup
    rw [List.map_map]
    exact sound.operationsDistinct
  isMember d found o ho := by
    obtain ⟨origin, declared, rfl⟩ := List.mem_map.mp ho
    rw [find?_replaceAliases] at found
    obtain ⟨operationEnum, found', rfl⟩ := Option.map_eq_some_iff.mp found
    have member := sound.isMember operationEnum found' origin declared
    obtain ⟨d, tagBits, variants, found'', enum⟩ := sound.operationEnum
    obtain rfl : operationEnum = d := Option.some.inj (found'.symm.trans found'')
    rw [Declaration.replaceAliases, enum]
    rw [enum] at member
    exact member

/-- A composition is like the one with its aliases replaced. -/
theorem alike_replaceAliases (sound : c.Sound) : c.Alike (.refl String) c.replaceAliases := by
  have acts := NativeType.replaceAliases_actsAlong c.types.declarations
  have sound' := sound.replaceAliases
  have alike : c.names.Alike (.refl String) c.replaceAliases.names :=
    ⟨sound.types, sound'.types, (List.map_id _).symm, (List.map_id _).symm⟩
  have found' {name : String} {d : Declaration} (found : c.types.find? name = some d) :
      c.replaceAliases.types.find? name = some (d.replaceAliases c.types.declarations) := by
    rw [find?_replaceAliases, found]
    rfl
  -- The type of an alias is not changed where it comes in place of a mention. So a mention that
  -- stays has to be lowered as before too, and not only what comes in place of it.
  have mentions (name : String) (has : c.types.has name = true) :
      LowersAlike id c.names c.replaceAliases.names (.ref name) (.ref name) ∧
        LowersAlike id c.names c.replaceAliases.names (.ref name)
          (unaliased c.types.declarations name) := by
    refine sound.types.held_induction name has fun name d found inner => ?_
    have mention : LowersAlike id c.names c.replaceAliases.names (.ref name) (.ref name) :=
      .mention alike found (found' found)
        (alike.declaredAlike acts found fun held mention => (inner held mention).2)
    refine ⟨mention, ?_⟩
    cases h : aliasType? c.types.declarations name with
    | none =>
      rw [unaliased_of_not_alias h]
      exact mention
    | some type =>
      obtain ⟨⟨_, isAlias, rfl⟩, structural⟩ := Registry.aliasType?_declarations.mp h
      obtain rfl : d = _ := Option.some.inj (found.symm.trans isAlias)
      have unchanged : LowersAlike id c.names c.replaceAliases.names d.type d.type :=
        alike.lowersAlike NativeType.id_actsAlong (sound.types.alias_wellFormed found structural)
          fun held mention => (inner held mention).1
      rw [unaliased_of_alias h]
      exact .follow_left structural sound.types found unchanged
  exact .of_actsAlong sound alike acts (fun name d found => ⟨_, found' found, rfl⟩)
    (fun name has => (mentions name has).2) rfl rfl rfl fun _ => rfl

/-- Replacing the aliases of two documents once: they are composed again, to a composition that is
alike. -/
theorem compose_replaceAliases (composed : compose protocol domain = .ok c) :
    compose (NativeBindings.replaceAliases (protocol, domain)).1
        (NativeBindings.replaceAliases (protocol, domain)).2 = .ok c.replaceAliases ∧
      c.Alike (.refl String) c.replaceAliases := by
  obtain ⟨made, sound⟩ := compose_eq_ok_iff.mp composed
  exact ⟨compose_eq_ok_iff.mpr ⟨made.replaceAliases, sound.replaceAliases⟩,
    alike_replaceAliases sound⟩

/-- Replacing aliases any number of times: the documents are composed again, and the runs end
alike. -/
theorem compose_iterate_replaceAliases : ∀ (n : Nat) (documents : Document × Document)
    (c : Composition), compose documents.1 documents.2 = .ok c → ∃ c',
      compose (NativeBindings.replaceAliases^[n] documents).1
        (NativeBindings.replaceAliases^[n] documents).2 = .ok c' ∧
      ∀ options, EndAlike id (· = ·) (c.generateText options).runLog.1
        (c'.generateText options).runLog.1 := by
  intro n
  induction n with
  | zero => exact fun documents c composed => ⟨c, composed, fun options => .refl _⟩
  | succ n ih =>
    intro documents c composed
    obtain ⟨composed', alike⟩ := compose_replaceAliases composed
    obtain ⟨c', composed'', rest⟩ := ih _ _ composed'
    exact ⟨c', composed'', fun options => (alike.generateText options).trans (rest options)⟩

end Composition

/-! ## Until none is left -/

/-- Along every mention of an alias by value, the rank drops by more than a number of steps; of an
operation's types it starts at the limit. -/
structure DropsBy (rank : String → Nat) (limit steps : Nat) (documents : Document × Document) :
    Prop where
  ranked : ∀ d ∈ declarationsOf documents, rank d.name < limit
  declarations : ∀ d ∈ declarationsOf documents, ∀ held ∈ d.type.valueRefs,
    aliasType? (declarationsOf documents) held ≠ none → rank held + steps < rank d.name
  operations : ∀ o ∈ operationsOf documents, ∀ held ∈ o.event.valueRefs ++ o.result.valueRefs,
    aliasType? (declarationsOf documents) held ≠ none → rank held + steps < limit

theorem declarationsOf_replaceAliases (documents : Document × Document) :
    declarationsOf (replaceAliases documents) =
      (declarationsOf documents).map (·.replaceAliases (declarationsOf documents)) :=
  List.map_append.symm

theorem operationsOf_replaceAliases (documents : Document × Document) :
    operationsOf (replaceAliases documents) =
      (operationsOf documents).map (·.replaceAliases (declarationsOf documents)) :=
  List.map_append.symm

/-- Aliases stay aliases. -/
theorem aliasType?_map_replaceAliases (declared declared' : List Declaration) (name : String) :
    aliasType? (declared.map (·.replaceAliases declared')) name = none ↔
      aliasType? declared name = none := by
  have acts := NativeType.replaceAliases_actsInside declared'
  simp only [aliasType?, List.find?_map]
  show ((Option.map _ ((declared.find? (·.name == name)).map _)).filter _) = none ↔ _
  cases declared.find? (·.name == name) with
  | none => rfl
  | some d =>
    have same : (d.replaceAliases declared').type.isNominal = d.type.isNominal :=
      acts.isNominal d.type
    simp [same]

namespace DropsBy

variable {rank : String → Nat} {limit steps : Nat} {documents : Document × Document}

/-- One replacement leaves the aliases that were two mentions away. -/
theorem substituted (h : DropsBy rank limit steps documents) {bound : Nat} {type : NativeType}
    (drops : ∀ held ∈ type.valueRefs, aliasType? (declarationsOf documents) held ≠ none →
      rank held + steps < bound) :
    ∀ held ∈ (type.replaceAliases (declarationsOf documents)).valueRefs,
      aliasType? (declarationsOf documents) held ≠ none → rank held + (steps + 1) < bound := by
  intro held mention isAlias
  rw [NativeType.replaceAliases, NativeType.valueRefs_substitute, List.mem_flatMap] at mention
  obtain ⟨via, mention, inner⟩ := mention
  cases between : aliasType? (declarationsOf documents) via with
  | none =>
    rw [unaliased_of_not_alias between] at inner
    obtain rfl : held = via := List.mem_singleton.mp inner
    exact absurd between isAlias
  | some type =>
    rw [unaliased_of_alias between] at inner
    obtain ⟨⟨d, found, rfl⟩, -⟩ := aliasType?_eq_some_iff.mp between
    have first := drops via mention (by simp [between])
    have second := h.declarations d (List.mem_of_find?_eq_some found) held inner isAlias
    have owner : d.name = via := by simpa using List.find?_some found
    rw [owner] at second
    omega

theorem step (h : DropsBy rank limit steps documents) :
    DropsBy rank limit (steps + 1) (replaceAliases documents) where
  ranked d hd := by
    rw [declarationsOf_replaceAliases] at hd
    obtain ⟨origin, declared, rfl⟩ := List.mem_map.mp hd
    exact h.ranked origin declared
  declarations d hd held mention isAlias := by
    rw [declarationsOf_replaceAliases] at hd isAlias
    obtain ⟨origin, declared, rfl⟩ := List.mem_map.mp hd
    rw [ne_eq, aliasType?_map_replaceAliases] at isAlias
    exact h.substituted (h.declarations origin declared) held mention isAlias
  operations o ho held mention isAlias := by
    rw [operationsOf_replaceAliases] at ho
    rw [declarationsOf_replaceAliases, ne_eq, aliasType?_map_replaceAliases] at isAlias
    obtain ⟨origin, declared, rfl⟩ := List.mem_map.mp ho
    have drops := h.operations origin declared
    rcases List.mem_append.mp mention with mention | mention
    · refine h.substituted (fun held mention => ?_) held mention isAlias
      exact drops held (List.mem_append_left _ mention)
    · refine h.substituted (fun held mention => ?_) held mention isAlias
      exact drops held (List.mem_append_right _ mention)

theorem iterate (h : DropsBy rank limit 0 documents) :
    ∀ n, DropsBy rank limit n (replaceAliases^[n] documents) := by
  intro n
  induction n with
  | zero => exact h
  | succ n ih =>
    rw [Function.iterate_succ_apply']
    exact ih.step

/-- A rank cannot drop by as much as its limit. -/
theorem isExpanded (h : DropsBy rank limit limit documents) : IsExpanded documents where
  declarations d hd held mention := by
    by_contra isAlias
    have drop := h.declarations d hd held mention isAlias
    have low := h.ranked d hd
    omega
  operations o ho held mention := by
    by_contra isAlias
    have drop := h.operations o ho held mention isAlias
    omega

end DropsBy

namespace Composition

variable {c : Composition} {protocol domain : Document}

/-- Heights drop along mentions by value. -/
theorem dropsBy_height (composed : compose protocol domain = .ok c) :
    DropsBy c.types.height c.types.size 0 (protocol, domain) := by
  obtain ⟨made, sound⟩ := compose_eq_ok_iff.mp composed
  have declared : c.types.declarations = declarationsOf (protocol, domain) := made.declarations
  have operations : c.operations = operationsOf (protocol, domain) := made.operations
  constructor
  · intro d hd
    rw [← declared] at hd
    exact sound.types.height_lt_size (Registry.has_iff.mpr ⟨d, hd, rfl⟩)
  · intro d hd held mention _
    rw [← declared] at hd
    exact sound.types.height_lt ⟨d, Registry.find?_eq_some_iff.mpr ⟨hd, rfl⟩, mention⟩
  · intro o ho held mention _
    rw [← operations] at ho
    obtain ⟨event, result⟩ := sound.wellFormed o ho
    rcases List.mem_append.mp mention with mention | mention
    · exact (sound.types.bounded_of_wellFormed event held mention).2
    · exact (sound.types.bounded_of_wellFormed result held mention).2

/-- Aliases are transparent. Replacing every alias that is held by value by its type, in both
documents and as often as there are declarations, leaves none. However often it is done, the
documents are composed again and exactly the same texts are generated; where none is, both runs fail
with the same fault, up to how messages describe the type that is at fault. -/
theorem aliases_transparent (composed : compose protocol domain = .ok c) :
    IsExpanded (NativeBindings.replaceAliases^[(declarationsOf (protocol, domain)).length]
      (protocol, domain)) ∧
    ∀ n, ∃ c', compose (NativeBindings.replaceAliases^[n] (protocol, domain)).1
        (NativeBindings.replaceAliases^[n] (protocol, domain)).2 = .ok c' ∧
      ∀ options : Option Value,
        (∀ text, (c.generateText options).runLog.1 = .ok text ↔
          (c'.generateText options).runLog.1 = .ok text) ∧
        ∀ fault, (c.generateText options).runLog.1 = .error fault →
          ∃ fault', (c'.generateText options).runLog.1 = .error fault' ∧
            fault.Alike id fault' := by
  constructor
  · have size : c.types.size = (declarationsOf (protocol, domain)).length :=
      congrArg List.length (compose_eq_ok_iff.mp composed).1.declarations
    rw [← size]
    exact ((dropsBy_height composed).iterate c.types.size).isExpanded
  · intro n
    obtain ⟨c', composed', alike⟩ := compose_iterate_replaceAliases n (protocol, domain) c composed
    refine ⟨c', composed', fun options => ⟨fun text => (alike options).eq_ok_iff, ?_⟩⟩
    exact fun fault failed => (alike options).eq_error failed

/-- Records with keys, whose type is an alias of an alias. -/
def keyedRecords : Document :=
  .ofDeclarations
    [⟨"key_t", .ref "id_t"⟩, ⟨"id_t", .int 64 false⟩,
      ⟨"record_t", .struct .cAbi [⟨"keys", .array (.ref "key_t") 4, false⟩,
        ⟨"next", .pointer (.ref "record_t") true, true⟩]⟩]
    [("record_t", "Record"), ("key_t", "Key")]

theorem aliases_transparent_keyedRecords : ∃ c c' text,
    compose .bareProtocol keyedRecords = .ok c ∧
      (NativeBindings.replaceAliases^[2] (.bareProtocol, keyedRecords)).2.types =
        [⟨"key_t", .int 64 false⟩, ⟨"id_t", .int 64 false⟩,
          ⟨"record_t", .struct .cAbi [⟨"keys", .array (.int 64 false) 4, false⟩,
            ⟨"next", .pointer (.ref "record_t") true, true⟩]⟩] ∧
      compose (NativeBindings.replaceAliases^[2] (.bareProtocol, keyedRecords)).1
        (NativeBindings.replaceAliases^[2] (.bareProtocol, keyedRecords)).2 = .ok c' ∧
      (c.generateText none).runLog.1 = .ok text ∧ (c'.generateText none).runLog.1 = .ok text := by
  obtain ⟨c', composed', same⟩ := (@aliases_transparent _ .bareProtocol keyedRecords rfl).2 2
  exact ⟨_, c', _, rfl, rfl, composed', rfl, ((same none).1 _).mp rfl⟩

end Composition
end NativeBindings
