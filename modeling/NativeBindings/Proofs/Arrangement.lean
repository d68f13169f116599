import NativeBindings.Proofs.ExtendedNames

/-!
# The arrangement of declarations

Declarations are looked up by name, so nothing depends on where they stand. What is generated from
a composition is generated, with the same messages and the same faults, from any composition that
differs in nothing but the order of its declarations, the document that each is in, and further
declarations (`Composition.generate_withTypes`). Composing two documents depends on the order no
more than that: the search for cycles visits declarations in order, and yet finds a cycle exactly if
there is one (`Composition.Sound.withTypes`).

`Composition.arrangement_invisible` puts both together.
-/
namespace NativeBindings

/-! ## Registries -/

namespace Registry

variable {types types' : Registry}

theorem within_of_perm {more : List Declaration}
    (h : types'.declarations.Perm (types.declarations ++ more)) : types.Within types' := by
  intro name d found
  obtain ⟨declared, named⟩ := find?_eq_some_iff.mp found
  exact find?_eq_some_iff.mpr ⟨h.mem_iff.mpr (List.mem_append_left more declared), named⟩

/-- Of declarations in another order, every name finds the same one. -/
theorem find?_eq_of_perm (h : types'.declarations.Perm types.declarations) (name : String) :
    types'.find? name = types.find? name := by
  ext d
  rw [find?_eq_some_iff, find?_eq_some_iff, h.mem_iff]

theorem has_congr (same : ∀ name, types'.find? name = types.find? name) (name : String) :
    types'.has name = types.has name := by
  have within : types.Within types' := fun name d found => (same name).trans found
  have within' : types'.Within types := fun name d found => (same name).symm.trans found
  rw [Bool.eq_iff_iff]
  exact ⟨within'.has, within.has⟩

/-- The rules for declarations see nothing but what names find. -/
theorem Sound.of_find?_eq (sound : types.Sound)
    (same : ∀ name, types'.find? name = types.find? name) : types'.Sound := by
  have edges : types'.HoldsByValue = types.HoldsByValue := by
    funext a b
    simp only [HoldsByValue, same]
  refine ⟨fun d declared => ?_, ?_⟩
  · have found : types.find? d.name = some d :=
      (same d.name).symm.trans (find?_eq_some_iff.mpr ⟨declared, rfl⟩)
    exact (Check.declaration_eq_ok_iff_of_actsInside NativeType.id_actsInside rfl
      (NativeType.wellFormed_congr (has_congr same))).mpr (sound.checked_of_find? found)
  · intro name
    rw [edges]
    exact sound.acyclic name

end Registry

/-! ## Compositions -/

namespace Composition

/-- The composition with other declarations and everything else as it is: metadata, name tables,
operations and client. -/
def withTypes (c : Composition) (types : Registry) : Composition :=
  { c with names := { c.names with types } }

variable {c : Composition} {types : Registry}

/-- Compositions of other declarations satisfy the rules if every name finds the same. -/
theorem Sound.withTypes (sound : c.Sound) (same : ∀ name, types.find? name = c.types.find? name) :
    (c.withTypes types).Sound := by
  have has := Registry.has_congr same
  have wellFormed := NativeType.wellFormed_congr has
  exact {
    types := sound.types.of_find?_eq same
    names := ⟨fun m hm => (has m.type).trans (sound.names.declared m hm), sound.names.apart,
      sound.names.distinct⟩
    roleMapped := sound.roleMapped
    roleDeclared := fun role => (has _).trans (sound.roleDeclared role)
    operationEnum := by
      obtain ⟨d, tagBits, variants, found, htype⟩ := sound.operationEnum
      exact ⟨d, tagBits, variants, (same _).trans found, htype⟩
    packetStruct := by
      obtain ⟨d, fields, found, htype⟩ := sound.packetStruct
      exact ⟨d, fields, (same _).trans found, htype⟩
    wellFormed := fun o ho => by
      obtain ⟨event, result⟩ := sound.wellFormed o ho
      exact ⟨(wellFormed o.event).mpr event, (wellFormed o.result).mpr result⟩
    operationsDistinct := sound.operationsDistinct
    isMember := fun d found => sound.isMember d ((same _).symm.trans found) }

/-- Documents are composed whichever way their declarations are arranged. -/
theorem compose_isOk_of_perm (protocol domain : Document) {first second : List Declaration}
    (composed : compose protocol domain = .ok c)
    (h : (first ++ second).Perm (protocol.types ++ domain.types)) :
    ∃ c', compose { protocol with types := first } { domain with types := second } = .ok c' := by
  obtain ⟨made, sound⟩ := compose_eq_ok_iff.mp composed
  rw [← made.declarations] at h
  let types : Registry := ⟨first ++ second, (h.map _).nodup_iff.mpr c.types.distinct⟩
  refine ⟨c.withTypes types, compose_eq_ok_iff.mpr ⟨?_, ?_⟩⟩
  · exact ⟨made.protocolMetadata, made.domainMetadata, made.client, rfl, made.protocolTable,
      made.domainTable, made.operations⟩
  · exact sound.withTypes (@Registry.find?_eq_of_perm c.types types h)

/-! ## What is generated -/

/-- A step that gives a result logs nothing, and the next one goes on with the result. -/
theorem liftExcept_ok_bind {α β : Type} (a : α) (next : α → Logged β) :
    (generate.liftExcept (.ok a) >>= next) = next a := rfl

theorem mapM_resolve_withTypes (within : c.types.Within types) (table : TableKind)
    {mappings : List Mapping} (declared : ∀ m ∈ mappings, c.types.has m.type = true) :
    mappings.mapM ((c.withTypes types).names.resolve table) =
      mappings.mapM (c.names.resolve table) := by
  refine (SameUnless.mapM fun m hm => .of_eq ?_).eq
  obtain ⟨d, found⟩ := Registry.find?_of_has (declared m hm)
  rw [Names.resolve_eq_ok_iff (e := ⟨table, m, d⟩) |>.mpr ⟨rfl, rfl, found⟩,
    Names.resolve_eq_ok_iff (e := ⟨table, m, d⟩) |>.mpr ⟨rfl, rfl, within _ _ found⟩]

section Generate

variable (sound : c.Sound) (within : c.types.Within types)
include sound within

theorem domainEntries_withTypes :
    (c.withTypes types).names.domainEntries = c.names.domainEntries :=
  mapM_resolve_withTypes within .domain fun m hm =>
    sound.names.declared m (List.mem_append_right _ hm)

theorem all_withTypes : (c.withTypes types).names.all = c.names.all := by
  have protocol := mapM_resolve_withTypes within .protocol fun m hm =>
    sound.names.declared m (List.mem_append_left _ hm)
  unfold Names.all
  rw [domainEntries_withTypes sound within]
  exact congrArg (· >>= _) protocol

theorem operationEnum_withTypes : (c.withTypes types).operationEnum = c.operationEnum := by
  obtain ⟨d, found⟩ := Registry.find?_of_has (sound.roleDeclared .operation)
  have got : c.types.get c.client.roles.operation = .ok d := Registry.get_eq_ok_iff.mpr found
  have got' : types.get c.client.roles.operation = .ok d :=
    Registry.get_eq_ok_iff.mpr (within _ _ found)
  show (c.roleName .operation >>= fun name => types.get c.client.roles.operation >>= _) =
    c.roleName .operation >>= fun name => c.types.get c.client.roles.operation >>= _
  rw [got, got']
  rfl

variable (sound' : (c.withTypes types).Sound)
include sound'

theorem within_withTypes : c.names.Within (fun _ => False) (c.withTypes types).names where
  types := sound.types
  types' := sound'.types
  declared := within
  require _ _ := .same _
  requireDomain _ _ := .same _

theorem buildAll_withTypes (operationEnum : OperationEnum) :
    MethodSignature.buildAll (c.withTypes types).names operationEnum c.operations =
      MethodSignature.buildAll c.names operationEnum c.operations := by
  refine (SameUnless.mapM fun o ho => ?_).eq.symm
  obtain ⟨event, result⟩ := sound.wellFormed o (List.mem_filter.mp ho).1
  exact (within_withTypes sound within sound').signature event result operationEnum

/-- Among more declarations or in another order, the same run. -/
theorem generate_withTypes (options : GeneratorOptions) :
    (c.withTypes types).generate options = c.generate options := by
  have names := within_withTypes sound within sound'
  obtain ⟨entries, listed⟩ := sound.names.all_isOk
  obtain ⟨-, domain, -, hdomain, -, -, -, found⟩ := Names.all_eq_ok listed
  have inDomain : ∀ e ∈ domain, e ∈ entries := fun e he =>
    ((Names.mem_domainEntries_iff listed hdomain).mp he).1
  have reads (f : Field NativeType) : c.names.ReadsAlike (c.withTypes types).names f :=
    fun _ _ _ _ _ => rfl
  have definitions : entries.mapM (·.definition? (c.withTypes types).names) =
      entries.mapM (·.definition? c.names) :=
    (SameUnless.mapM fun e he => names.definition? (found e he)).eq.symm
  have records : (domain.filter (·.isStruct)).mapM (·.record (c.withTypes types).names) =
      (domain.filter (·.isStruct)).mapM (·.record c.names) :=
    (SameUnless.mapM fun e he =>
      names.record (found e (inDomain e (List.mem_filter.mp he).1))).eq.symm
  have bindings : (entries.filter (·.isStruct)).mapM (·.binding (c.withTypes types).names) =
      (entries.filter (·.isStruct)).mapM (·.binding c.names) :=
    (SameUnless.mapM fun e he => names.binding (found e (List.mem_filter.mp he).1)
      fun _ _ _ f _ => reads f).eq.symm
  have methods := buildAll_withTypes sound within sound'
  have entryPoints : (c.withTypes types).entryPoints = c.entryPoints := rfl
  have client : (c.withTypes types).client = c.client := rfl
  have operations : (c.withTypes types).operations = c.operations := rfl
  have protocolMetadata : (c.withTypes types).protocol = c.protocol := rfl
  have domainMetadata : (c.withTypes types).domain = c.domain := rfl
  simp only [generate, all_withTypes sound within, domainEntries_withTypes sound within, listed,
    hdomain, liftExcept_ok_bind, definitions, records, bindings, entryPoints,
    operationEnum_withTypes sound within, methods, client, operations, protocolMetadata,
    domainMetadata]

theorem generateText_withTypes (options : Option Value) :
    (c.withTypes types).generateText options = c.generateText options := by
  simp only [generateText, generate_withTypes sound within sound']

end Generate

/-! ## Arrangements do not show -/

/-- Where declarations stand does not show. Compositions that differ in nothing but the order of
their declarations, the document that each came from and further declarations of the one give the
same text or the same fault, after the same messages, and documents whose declarations are arranged
in another way are composed exactly if the documents are. -/
theorem arrangement_invisible :
    (∀ (protocol domain protocol' domain' : Document) (c c' : Composition)
      (more : List Declaration), compose protocol domain = .ok c →
      compose protocol' domain' = .ok c' → c' = c.withTypes c'.types →
      c'.types.declarations.Perm (c.types.declarations ++ more) →
      ∀ options : Option Value,
        (c'.generateText options).runLog = (c.generateText options).runLog) ∧
    ∀ (protocol domain : Document) (first second : List Declaration),
      (first ++ second).Perm (protocol.types ++ domain.types) →
      ((∃ c, compose protocol domain = .ok c) ↔
        ∃ c, compose { protocol with types := first } { domain with types := second } = .ok c) := by
  refine ⟨?_, ?_⟩
  · intro protocol domain protocol' domain' c c' more composed composed' same arranged options
    have sound' := sound_of_compose composed'
    rw [same] at sound'
    rw [same, generateText_withTypes (sound_of_compose composed)
      (Registry.within_of_perm arranged) sound']
  · intro protocol domain first second arranged
    constructor
    · rintro ⟨c, composed⟩
      exact compose_isOk_of_perm protocol domain composed arranged
    · rintro ⟨c, composed⟩
      exact compose_isOk_of_perm { protocol with types := first } { domain with types := second }
        composed arranged.symm

/-- A record that mentions an alias. -/
def keyedNode : Document :=
  .ofDeclarations
    [⟨"id_t", .int 64 false⟩,
      ⟨"node_t", .struct .cAbi [⟨"id", .ref "id_t", false⟩,
        ⟨"next", .pointer (.ref "node_t") true, true⟩]⟩]
    [("node_t", "Node")]

/-- A declaration that nothing refers to. -/
def spare : Declaration := ⟨"spare_t", .array (.ref "id_t") 3⟩

/-- The protocol document with the declarations of both, and one more. -/
def crowdedProtocol : Document :=
  { Document.bareProtocol with types := keyedNode.types ++ [spare] }

/-- The domain document with the declarations of the protocol. -/
def emptiedDomain : Document := { keyedNode with types := Document.bareProtocol.types }

theorem arrangement_invisible_keyedNode : ∃ c c' text,
    compose .bareProtocol keyedNode = .ok c ∧ compose crowdedProtocol emptiedDomain = .ok c' ∧
      c.types.names = ["op_t", "packet_t", "id_t", "node_t"] ∧
      c'.types.names = ["id_t", "node_t", "spare_t", "op_t", "packet_t"] ∧
      (c'.generateText none).runLog.1 = .ok text ∧
      (c'.generateText none).runLog = (c.generateText none).runLog ∧
      ∃ c, compose { Document.bareProtocol with types := keyedNode.types }
        { keyedNode with types := Document.bareProtocol.types } = .ok c := by
  refine ⟨_, _, _, rfl, rfl, rfl, rfl, rfl, ?_, ?_⟩
  · refine arrangement_invisible.1 .bareProtocol keyedNode crowdedProtocol emptiedDomain _ _ [spare]
      rfl rfl rfl ?_ none
    show (keyedNode.types ++ [spare] ++ Document.bareProtocol.types).Perm
      (Document.bareProtocol.types ++ keyedNode.types ++ [spare])
    rw [List.append_assoc Document.bareProtocol.types]
    exact List.perm_append_comm
  · exact (arrangement_invisible.2 .bareProtocol keyedNode _ _ List.perm_append_comm).mp ⟨_, rfl⟩

end Composition
end NativeBindings
