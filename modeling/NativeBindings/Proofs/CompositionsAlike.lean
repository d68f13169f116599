import NativeBindings.Proofs.Entries
import NativeBindings.Proofs.LoweringAlike

/-!
# Compositions that the same text is generated from

Two compositions are alike (`Composition.Alike`) if their declarations correspond under a renaming
and have types that are lowered alike, and everything else is the same. Then every pass ends alike
on corresponding entries, so the same module is assembled (`Composition.Alike.assemble`) and the
same text is written (`Composition.Alike.generateText`), or both runs fail alike. Where one
composition is the other with its types changed, only mentions have to be looked at
(`Composition.Alike.of_actsAlong`).
-/
namespace NativeBindings

variable {ρ : String ↪ String} {names names' : Names}

/-! ## Fields -/

theorem exposed_alike {fields fields' : Fields}
    (each : List.Forall₂ (FieldAlike ρ names names') fields fields') :
    List.Forall₂ (FieldAlike ρ names names') (Fields.exposed fields) (Fields.exposed fields') := by
  have kept := forall₂_filter (p := (!·.reserved)) (q := (!·.reserved)) each fun f f' alike => by
    rw [alike.reserved]
  exact kept.imp fun f f' alike => alike.1

namespace FieldAlike

variable {f f' : Field NativeType} (h : FieldAlike ρ names names' f f')

include h in
theorem recordField (owner owner' : String) : EndAlike ρ (· = ·) (Record.field names owner f)
    (Record.field names' owner' f') := by
  obtain ⟨name, type, reserved⟩ := f
  obtain ⟨_, type', reserved'⟩ := f'
  obtain rfl : _ = name := h.name
  refine (h.type.hint _ _).bind_eq fun hint => ?_
  exact (h.type.defaultValue _ _).bind_eq fun default => .refl _

include h in
theorem layoutField (owner owner' : String) :
    EndAlike ρ (· = ·) (StructBinding.layoutField names owner f)
      (StructBinding.layoutField names' owner' f') := by
  obtain ⟨name, type, reserved⟩ := f
  obtain ⟨_, type', reserved'⟩ := f'
  obtain rfl : _ = name := h.name
  exact (h.type.ctype _ _).bind_eq fun ctype => .refl _

variable (alike : names.Alike ρ names')
include alike h

theorem check? (owner : String) : EndAlike ρ (· = ·) (StructBinding.check? names owner f)
    (StructBinding.check? names' (ρ owner) f') := by
  obtain ⟨name, type, reserved⟩ := f
  obtain ⟨_, type', reserved'⟩ := f'
  obtain rfl : _ = name := h.name
  have ends := (h.type.resolve alike).map (S := NativeType.SameHead) fun r r' same => same.head
  refine ends.bind fun t t' head => ?_
  have unchecked : EndAlike ρ (· = ·) (.ok none : Except Fault (Option BoundsCheck)) (.ok none) :=
    .refl _
  cases head with
  | enum | array | pointer | struct => exact unchecked
  | leaf leaf =>
    cases t with
    | int bits signed =>
      cases signed with
      | true => exact .error (.signedField owner _ _)
      | false => exact .refl _
    | bool | void | untyped | float => exact unchecked
    | _ => cases leaf

theorem checkAndStore (owner : String) :
    EndAlike ρ (· = ·) (StructBinding.checkAndStore names owner f)
      (StructBinding.checkAndStore names' (ρ owner) f') := by
  refine (h.check? alike owner).bind_eq fun check => ?_
  refine EndAlike.bind_eq ((h.type.isWide alike).bind_eq fun wide => .refl _) fun stored => ?_
  rw [h.name]
  exact .refl _

theorem restore : EndAlike ρ (· = ·) (StructBinding.restore names f)
    (StructBinding.restore names' f') := by
  refine (h.type.resolve alike).bind fun r r' same => ?_
  have domainName : (if r'.type.isNominal then r'.declaration.bind names'.lookupDomain else none) =
      if r.type.isNominal then r.declaration.bind names.lookupDomain else none := by
    rw [same.head.isNominal_eq]
    cases nominal : r.type.isNominal with
    | false => rfl
    | true =>
      rw [same.declaration nominal]
      cases r.declaration with
      | none => rfl
      | some owner => exact alike.lookupDomain owner
  simp only [domainName, same.head.isWide_eq, h.name]
  exact .refl _

end FieldAlike

/-! ## Entries -/

/-- Entries of one table for declarations that correspond. -/
structure NamedDeclaration.Alike (ρ : String ↪ String) (names names' : Names)
    (e e' : NamedDeclaration) : Prop where
  table : e'.table = e.table
  mapping : e'.mapping = e.mapping.rename ρ
  declaration : e'.declaration.name = ρ e.declaration.name
  type : DeclaredAlike ρ names names' e.declaration.type e'.declaration.type

theorem EnumClass.checkSkip_alike (type : String) (skip declared : List String) :
    EndAlike ρ (· = ·) (checkSkip type skip declared) (checkSkip (ρ type) skip declared) := by
  unfold checkSkip
  cases skip.find? (· ∉ declared) with
  | none => exact .refl _
  | some member => exact .error (.skipUndeclared type member)

/-- Alike fields have the same names. -/
theorem names_of_fieldsAlike {fields fields' : Fields}
    (each : List.Forall₂ (FieldAlike ρ names names') fields fields') :
    fields'.map (·.name) = fields.map (·.name) := by
  induction each with
  | nil => rfl
  | cons first _ ih => rw [List.map_cons, List.map_cons, ih, first.name]

namespace EnumClass

/-- The members of a packed struct depend on the names of its fields alone. -/
theorem members_of_names (fields : Fields) (skip : List String) :
    ((fields.zipIdx.filter fun (field, _) => field.name ∉ skip).map fun (field, position) =>
        ofField field.name position) =
      ((fields.map (·.name)).zipIdx.filter fun (name, _) => name ∉ skip).map fun (name, position) =>
        ofField name position := by
  rw [List.zipIdx_map, List.filter_map, List.map_map]
  rfl

theorem skipList_alike {type type' : NativeType} (h : DeclaredAlike ρ names names' type type')
    (skip : Option (List String)) : skipList type' skip = skipList type skip := by
  cases skip with
  | some skip => rfl
  | none =>
    cases h with
    | enum => rfl
    | @struct fields fields' layout each =>
      cases layout with
      | cAbi | auto => rfl
      | packed =>
        have same (name : String) : fields'.any (·.name == name) = fields.any (·.name == name) := by
          have mapped (fields : Fields) :
              fields.any (·.name == name) = (fields.map (·.name)).any (· == name) := by
            rw [List.any_map]
            rfl
          rw [mapped, mapped, names_of_fieldsAlike each]
        simp only [skipList, same]
    | structural structural structural' =>
      have noDefault {type : NativeType} (structural : type.isNominal = false) :
          skipList type none = [] := by
        cases type with
        | struct => cases structural
        | _ => rfl
      rw [noDefault structural, noDefault structural']

theorem build_alike {d d' : Declaration} (h : DeclaredAlike ρ names names' d.type d'.type)
    (enumLike : d.type.isEnumLike = true) (renamed : d'.name = ρ d.name) (name : String)
    (skip : List String) : EndAlike ρ (· = ·) (build d name skip) (build d' name skip) := by
  obtain ⟨owner, type⟩ := d
  obtain ⟨_, type'⟩ := d'
  obtain rfl : _ = ρ owner := renamed
  cases h with
  | enum tagBits variants => exact (checkSkip_alike owner skip _).bind_eq fun _ => .refl _
  | @struct fields fields' layout each =>
    cases layout with
    | cAbi | auto => cases enumLike
    | packed =>
      have same := names_of_fieldsAlike each
      simp only [build, members_of_names, same]
      exact (checkSkip_alike owner skip _).bind_eq fun _ => .refl _
  | structural structural =>
    cases type with
    | enum | struct => cases structural
    | _ => cases enumLike

end EnumClass

namespace NamedDeclaration.Alike

variable {e e' : NamedDeclaration} (h : e.Alike ρ names names' e')
include h

theorem isStruct_eq : e'.isStruct = e.isStruct := by
  obtain ⟨table, mapping, owner, type⟩ := e
  obtain ⟨table', mapping', owner', type'⟩ := e'
  cases h.type with
  | enum => rfl
  | struct layout each => cases layout <;> rfl
  | structural structural structural' =>
    have noStruct {type : NativeType} (structural : type.isNominal = false) :
        NamedDeclaration.isStruct ⟨table, mapping, owner, type⟩ = false := by
      cases type with
      | struct => cases structural
      | _ => rfl
    exact (noStruct structural').trans (noStruct structural).symm

theorem enumClass (enumLike : e.declaration.type.isEnumLike = true) :
    EndAlike ρ (· = ·) e.enumClass e'.enumClass := by
  unfold NamedDeclaration.enumClass
  rw [h.mapping, EnumClass.skipList_alike h.type]
  exact EnumClass.build_alike h.type enumLike h.declaration e.mapping.name _

theorem definition? : EndAlike ρ (· = ·) (e.definition? names) (e'.definition? names') := by
  have enumClass := h.enumClass
  have mapped := congrArg Mapping.name h.mapping
  have owner := h.declaration
  obtain ⟨table, mapping, owner, type⟩ := e
  obtain ⟨table', mapping', owner', type'⟩ := e'
  cases h.type with
  | enum tagBits variants => exact (enumClass rfl).map_eq (some ∘ Definition.enumClass)
  | struct layout each =>
    cases layout with
    | cAbi => exact .ok rfl
    | packed => exact (enumClass rfl).map_eq (some ∘ Definition.enumClass)
    | auto =>
      simp only at owner
      subst owner
      exact .error (.layoutUndefined _)
  | structural structural structural' lowered =>
    rw [NamedDeclaration.definition?_of_structural names structural,
      NamedDeclaration.definition?_of_structural names' structural', mapped]
    exact (lowered.ctype _ _).map_eq _

/-- The fields of corresponding structs. -/
theorem fields (struct : e.isStruct = true) : ∃ fields fields',
    e.declaration.type = .struct .cAbi fields ∧ e'.declaration.type = .struct .cAbi fields' ∧
      List.Forall₂ (FieldAlike ρ names names') fields fields' := by
  obtain ⟨fields, htype⟩ := NamedDeclaration.isStruct_iff.mp struct
  have alike := h.type
  rw [htype] at alike
  obtain ⟨fields', htype', each⟩ := alike.of_struct
  exact ⟨fields, fields', htype, htype', each⟩

theorem record (struct : e.isStruct = true) :
    EndAlike ρ (· = ·) (e.record names) (e'.record names') := by
  obtain ⟨fields, fields', htype, htype', each⟩ := h.fields struct
  unfold NamedDeclaration.record Record.build
  rw [htype, htype', h.mapping]
  have lowered := EndAlike.mapM_eq (exposed_alike each) fun f f' alike =>
    alike.recordField e.declaration.name e'.declaration.name
  exact lowered.bind_eq fun fields => .refl _

theorem binding (alike : names.Alike ρ names') (struct : e.isStruct = true) :
    EndAlike ρ (· = ·) (e.binding names) (e'.binding names') := by
  obtain ⟨fields, fields', htype, htype', each⟩ := h.fields struct
  unfold NamedDeclaration.binding
  rw [StructBinding.build_of_struct _ _ htype, StructBinding.build_of_struct _ _ htype', h.mapping,
    h.table, h.declaration]
  have exposed := exposed_alike each
  have inward := EndAlike.mapM_eq exposed fun f f' field =>
    field.checkAndStore alike e.declaration.name
  have restored := EndAlike.mapM_eq exposed fun f f' field => field.restore alike
  have layout := EndAlike.mapM_eq each fun f f' field =>
    field.layoutField e.declaration.name (ρ e.declaration.name)
  refine inward.bind_eq fun inward => EndAlike.bind_eq ?_ fun restored => ?_
  · cases e.table with
    | protocol => exact .refl _
    | domain => exact restored.map_eq some
  · exact layout.bind_eq fun layout => .refl _

end NamedDeclaration.Alike

/-- The structs among entries that correspond. -/
theorem structs_alike {entries entries' : List NamedDeclaration}
    (each : List.Forall₂ (NamedDeclaration.Alike ρ names names') entries entries') :
    List.Forall₂ (fun e e' => NamedDeclaration.Alike ρ names names' e e' ∧ e.isStruct = true)
      (entries.filter (·.isStruct)) (entries'.filter (·.isStruct)) :=
  forall₂_filter each fun _ _ alike => alike.isStruct_eq

/-! ## Operations -/

/-- Operations that become the same method. -/
structure Operation.Alike (ρ : String ↪ String) (names names' : Names) (o o' : Operation) :
    Prop where
  name : o'.name = o.name
  arity : o'.arity = o.arity
  parameter : o'.parameter = o.parameter
  event : LowersAlike ρ names names' o.event o'.event
  result : LowersAlike ρ names names' o.result o'.result

theorem Operation.Alike.signature {o o' : Operation} (h : o.Alike ρ names names' o')
    (alike : names.Alike ρ names') (operations : OperationEnum) :
    EndAlike ρ (· = ·) (MethodSignature.build names operations o)
      (MethodSignature.build names' operations o') := by
  unfold MethodSignature.build
  rw [h.name, h.arity, h.parameter]
  by_cases hidden : o.name ∈ operations.hidden
  · rw [if_pos hidden, if_pos hidden]
    exact .error (.same _)
  · rw [if_neg hidden, if_neg hidden]
    refine (h.event.hint _ _).bind_eq fun event => ?_
    refine (h.result.hint _ _).bind_eq fun result => ?_
    refine (h.event.wrapper alike _ _).bind_eq fun eventWrapper => ?_
    exact (h.result.wrapper alike _ _).bind_eq fun resultWrapper => .refl _

/-! ## Compositions -/

namespace Composition

/-- Compositions that differ in nothing that the generated text depends on. -/
structure Alike (ρ : String ↪ String) (c c' : Composition) : Prop where
  sound : c.Sound
  names : c.names.Alike ρ c'.names
  declared : ∀ name d, c.types.find? name = some d → ∃ d',
    c'.types.find? (ρ name) = some d' ∧ DeclaredAlike ρ c.names c'.names d.type d'.type
  operations : List.Forall₂ (Operation.Alike ρ c.names c'.names) c.operations c'.operations
  library : c'.client.library = c.client.library
  symbolPrefix : c'.client.symbolPrefix = c.client.symbolPrefix
  role : ∀ role, c'.client.roles.get role = ρ (c.client.roles.get role)

/-- Compositions are alike if one is the other with its types changed, and mentions are lowered as
before. -/
theorem Alike.of_actsAlong {c c' : Composition} {ψ : NativeType → NativeType} (sound : c.Sound)
    (names : c.names.Alike ρ c'.names) (acts : NativeType.ActsAlong ρ ψ)
    (found : ∀ name d, c.types.find? name = some d →
      ∃ d', c'.types.find? (ρ name) = some d' ∧ d'.type = ψ d.type)
    (mentions : ∀ name, c.types.has name = true →
      LowersAlike ρ c.names c'.names (.ref name) (ψ (.ref name)))
    (operations : c'.operations =
      c.operations.map fun o => { o with event := ψ o.event, result := ψ o.result })
    (library : c'.client.library = c.client.library)
    (symbolPrefix : c'.client.symbolPrefix = c.client.symbolPrefix)
    (role : ∀ role, c'.client.roles.get role = ρ (c.client.roles.get role)) : c.Alike ρ c' where
  sound := sound
  names := names
  declared name d isDeclared := by
    obtain ⟨d', isDeclared', changed⟩ := found name d isDeclared
    refine ⟨d', isDeclared', changed ▸ names.declaredAlike acts isDeclared fun held mention => ?_⟩
    exact mentions held (sound.types.held_declared ⟨d, isDeclared, mention⟩)
  operations := by
    have lowered {type : NativeType} (wellFormed : type.WellFormed c.types) :
        LowersAlike ρ c.names c'.names type (ψ type) :=
      names.lowersAlike acts wellFormed fun held mention =>
        mentions held (wellFormed.has_of_embeds (NativeType.mem_valueRefs_iff.mp mention))
    rw [operations]
    refine List.forall₂_map_right_iff.mpr (List.forall₂_same.mpr fun o ho => ?_)
    obtain ⟨event, result⟩ := sound.wellFormed o ho
    exact ⟨rfl, rfl, rfl, lowered event, lowered result⟩
  library := library
  symbolPrefix := symbolPrefix
  role := role

namespace Alike

variable {c c' : Composition} (h : c.Alike ρ c')
include h

theorem entries (table : TableKind) {mappings : List Mapping}
    (declared : ∀ m ∈ mappings, c.types.has m.type = true) :
    EndAlike ρ (List.Forall₂ (NamedDeclaration.Alike ρ c.names c'.names))
      (mappings.mapM (c.names.resolve table))
      ((mappings.map (·.rename ρ)).mapM (c'.names.resolve table)) := by
  have items : List.Forall₂ (fun m m' => c.types.has m.type = true ∧ m' = m.rename ρ) mappings
      (mappings.map (·.rename ρ)) := by
    rw [List.forall₂_map_right_iff, List.forall₂_same]
    exact fun m hm => ⟨declared m hm, rfl⟩
  refine EndAlike.mapM items fun m m' ⟨has, renamed⟩ => ?_
  subst renamed
  obtain ⟨d, found⟩ := Registry.find?_of_has has
  obtain ⟨d', found', alike⟩ := h.declared m.type d found
  have owner := (Registry.find?_eq_some_iff.mp found).2
  have owner' := (Registry.find?_eq_some_iff.mp found').2
  rw [Names.resolve_eq_ok_iff (e := ⟨table, m, d⟩) |>.mpr ⟨rfl, rfl, found⟩,
    Names.resolve_eq_ok_iff (e := ⟨table, m.rename ρ, d'⟩) |>.mpr ⟨rfl, rfl, found'⟩]
  exact .ok ⟨rfl, rfl, owner'.trans (congrArg ρ owner.symm), alike⟩

theorem domainEntries : EndAlike ρ (List.Forall₂ (NamedDeclaration.Alike ρ c.names c'.names))
    c.names.domainEntries c'.names.domainEntries := by
  unfold Names.domainEntries
  rw [h.names.domain]
  exact h.entries .domain fun m hm => h.sound.names.declared m (List.mem_append_right _ hm)

theorem all : EndAlike ρ (List.Forall₂ (NamedDeclaration.Alike ρ c.names c'.names))
    c.names.all c'.names.all := by
  unfold Names.all
  rw [h.names.protocol]
  have first := h.entries .protocol fun m hm =>
    h.sound.names.declared m (List.mem_append_left _ hm)
  refine first.bind fun protocol protocol' alike => ?_
  exact h.domainEntries.bind fun domain domain' alike' => .ok (List.rel_append alike alike')

theorem roleName (role : Role) : EndAlike ρ (· = ·) (c.roleName role) (c'.roleName role) := by
  unfold Composition.roleName
  rw [h.role]
  exact h.names.require _ _ _

theorem entryPoints : EndAlike ρ (· = ·) c.entryPoints c'.entryPoints := by
  unfold Composition.entryPoints
  rw [h.library, h.symbolPrefix]
  refine (h.roleName .status).bind_eq fun status => ?_
  refine (h.roleName .packet).bind_eq fun packet => ?_
  exact (h.roleName .handle).bind_eq fun handle => .refl _

theorem mappedSkip (type : String) :
    Composition.mappedSkip c'.names (ρ type) = Composition.mappedSkip c.names type := by
  unfold Composition.mappedSkip
  rw [NameTable.find?_rename h.names.protocol, NameTable.find?_rename h.names.domain]
  cases c.names.protocol.find? type <;> cases c.names.domain.find? type <;> rfl

theorem operationEnum : EndAlike ρ (· = ·) c.operationEnum c'.operationEnum := by
  have role : c'.client.roles.operation = ρ c.client.roles.operation := h.role .operation
  obtain ⟨d, found⟩ := Registry.find?_of_has (h.sound.roleDeclared .operation)
  obtain ⟨d', found', alike⟩ := h.declared _ d found
  unfold Composition.operationEnum
  rw [role]
  refine (h.roleName .operation).bind_eq fun name => ?_
  have got : c.types.get c.client.roles.operation = .ok d := Registry.get_eq_ok_iff.mpr found
  have got' : c'.types.get (ρ c.client.roles.operation) = .ok d' :=
    Registry.get_eq_ok_iff.mpr found'
  rw [got, got']
  show EndAlike ρ _ (.ok _) (.ok _)
  rw [EnumClass.skipList_alike alike, h.mappedSkip]
  exact .ok rfl

theorem methods (operationEnum : OperationEnum) :
    EndAlike ρ (· = ·) (MethodSignature.buildAll c.names operationEnum c.operations)
      (MethodSignature.buildAll c'.names operationEnum c'.operations) := by
  have exposed : List.Forall₂ (Operation.Alike ρ c.names c'.names)
      (MethodSignature.exposed c.operations) (MethodSignature.exposed c'.operations) := by
    have kept := forall₂_filter (p := (·.name != heartbeat)) (q := (·.name != heartbeat))
      h.operations fun o o' alike => by rw [alike.name]
    exact kept.imp fun o o' alike => alike.1
  exact EndAlike.mapM_eq exposed fun o o' alike => alike.signature h.names operationEnum

/-- The same module is assembled, or both runs fail alike. -/
theorem assemble (options : GeneratorOptions) :
    EndAlike ρ (· = ·) (c.assemble options) (c'.assemble options) := by
  unfold Composition.assemble
  rw [h.library]
  refine h.all.bind fun entries entries' alike => ?_
  refine EndAlike.bind_eq (EndAlike.mapM_eq alike fun e e' alike => alike.definition?)
    fun definitions => ?_
  refine h.domainEntries.bind fun domain domain' alike' => ?_
  refine EndAlike.bind_eq (EndAlike.mapM_eq (structs_alike alike') fun e e' ⟨alike, struct⟩ =>
    alike.record struct) fun records => ?_
  refine EndAlike.bind_eq (EndAlike.mapM_eq (structs_alike alike) fun e e' ⟨alike, struct⟩ =>
    alike.binding h.names struct) fun bindings => ?_
  refine h.entryPoints.bind_eq fun entryPoints => ?_
  refine h.operationEnum.bind_eq fun operationEnum => ?_
  exact (h.methods operationEnum).bind_eq fun methods => .refl _

/-- The same text is written, or both runs fail alike. -/
theorem generateText (options : Option Value) :
    EndAlike ρ (· = ·) (c.generateText options).runLog.1 (c'.generateText options).runLog.1 := by
  rw [runLog_generateText_bind, runLog_generateText_bind]
  refine (EndAlike.refl _).bind_eq fun resolved => ?_
  exact (h.assemble resolved).map_eq (·.text)

end Alike
end Composition
end NativeBindings
