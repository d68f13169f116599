import NativeBindings.Document.Composition
import NativeBindings.Proofs.NameTables
import NativeBindings.Proofs.SoundRegistry

/-!
# What composed documents promise

The rules that composing two documents enforces, as one structure (`Composition.Sound`): a sound
registry, sound name tables over it, roles that are declared and mapped, and operations whose types
are well formed and whose names are members of the operation enum. Two documents are composed
exactly if what they make satisfies them (`compose_eq_ok_iff`), and whatever is generated from a
composition may rely on them.
-/
namespace NativeBindings

namespace Composition

/-- The rules of a composition. -/
structure Sound (c : Composition) : Prop where
  types : c.types.Sound
  names : c.names.Sound
  roleMapped : ∀ role, ∃ name, c.names.lookup (c.client.roles.get role) = some name
  roleDeclared : ∀ role, c.types.has (c.client.roles.get role) = true
  operationEnum : ∃ d tagBits variants, c.types.find? c.client.roles.operation = some d ∧
    d.type = .enum tagBits variants
  packetStruct : ∃ d fields, c.types.find? c.client.roles.packet = some d ∧
    d.type = .struct .cAbi fields
  wellFormed : ∀ o ∈ c.operations, o.event.WellFormed c.types ∧ o.result.WellFormed c.types
  operationsDistinct : (c.operations.map (·.name)).Nodup
  isMember : ∀ d, c.types.find? c.client.roles.operation = some d →
    ∀ o ∈ c.operations, o.name ∈ members d.type

theorem checkRole_eq_ok_iff {names : Names} {client : Client} {role : Role} :
    checkRole names client role = .ok () ↔ names.types.has (client.roles.get role) = true ∧
      ∃ name, names.lookup (client.roles.get role) = some name := by
  cases declared : names.types.has (client.roles.get role) with
  | false => simp [checkRole, declared, throw, throwThe, MonadExceptOf.throw, bind, Except.bind]
  | true =>
    cases mapped : names.lookup (client.roles.get role) with
    | some name => simp [checkRole, declared, Names.require, mapped, pure, Except.pure]
    | none => simp [checkRole, declared, Names.require, mapped, bind, Except.bind]

theorem forM_checkRole_eq_ok_iff {names : Names} {client : Client} :
    Role.all.forM (checkRole names client) = .ok () ↔
      ∀ role, checkRole names client role = .ok () := by
  rw [forM_eq_ok]
  refine ⟨fun each role => each role ?_, fun each role _ => each role⟩
  cases role <;> decide

theorem checkRoles_eq_ok_iff {names : Names} {client : Client} :
    checkRoles names client = .ok () ↔ (∀ role, checkRole names client role = .ok ()) ∧
      (∃ d tagBits variants, names.types.find? client.roles.operation = some d ∧
        d.type = .enum tagBits variants) ∧
      ∃ d fields, names.types.find? client.roles.packet = some d ∧
        d.type = .struct .cAbi fields := by
  rw [checkRoles, check_bind_eq_ok, forM_checkRole_eq_ok_iff]
  simp only [bind_eq_ok, Registry.get_eq_ok_iff]
  constructor
  · rintro ⟨each, operation, hoperation, h⟩
    refine ⟨each, ?_⟩
    split at h
    · rename_i tagBits variants henum
      simp only [bind_eq_ok, Registry.get_eq_ok_iff] at h
      obtain ⟨packet, hpacket, h⟩ := h
      split at h
      · rename_i fields hstruct
        exact ⟨⟨operation, tagBits, variants, hoperation, henum⟩, packet, fields, hpacket, hstruct⟩
      · cases h
    · cases h
  · rintro ⟨each, ⟨operation, tagBits, variants, hoperation, henum⟩, packet, fields, hpacket,
      hstruct⟩
    refine ⟨each, operation, hoperation, ?_⟩
    obtain ⟨owner, type⟩ := packet
    obtain rfl : type = .struct .cAbi fields := hstruct
    simp only [henum]
    show (names.types.get client.roles.packet >>= _) = _
    rw [Registry.get_eq_ok_iff.mpr hpacket]
    rfl

/-- Operations pass when their types are well formed and their names are distinct, new, and those
of members. -/
theorem checkOperations_eq_ok_iff {types : Registry} {operationEnum : String}
    {members seen : List String} {operations : List Operation} :
    checkOperations types operationEnum members seen operations = .ok () ↔
      (∀ o ∈ operations, o.event.WellFormed types ∧ o.result.WellFormed types) ∧
      (operations.map (·.name)).Nodup ∧ ∀ o ∈ operations, o.name ∉ seen ∧ o.name ∈ members := by
  induction operations generalizing seen with
  | nil => simp [checkOperations]
  | cons o rest ih =>
    rw [checkOperations]
    by_cases old : o.name ∈ seen
    · simp [old]
    by_cases member : o.name ∈ members
    · rw [if_neg old, if_neg (by simpa using member)]
      simp only [check_bind_eq_ok, Check.type_eq_ok_iff, ih, List.mem_append, List.mem_singleton,
        not_or, List.forall_mem_cons, List.map_cons, List.nodup_cons, List.mem_map, not_exists,
        not_and]
      constructor
      · rintro ⟨event, result, wellFormed, distinct, later⟩
        exact ⟨⟨⟨event, result⟩, wellFormed⟩, ⟨fun p hp => (later p hp).1.2, distinct⟩,
          ⟨old, member⟩, fun p hp => ⟨(later p hp).1.1, (later p hp).2⟩⟩
      · rintro ⟨⟨⟨event, result⟩, wellFormed⟩, ⟨fresh, distinct⟩, -, later⟩
        exact ⟨event, result, wellFormed, distinct,
          fun p hp => ⟨⟨(later p hp).1, fresh p hp⟩, (later p hp).2⟩⟩
    · simp [old, member]

/-- A composition is made of exactly the parts of two documents. -/
structure MadeOf (c : Composition) (protocol domain : Document) : Prop where
  protocolMetadata : c.protocol = protocol.metadata
  domainMetadata : c.domain = domain.metadata
  client : protocol.client = some c.client
  declarations : c.types.declarations = protocol.types ++ domain.types
  protocolTable : c.names.protocol.mappings = protocol.mappings ∧ c.names.protocol.kind = .protocol
  domainTable : c.names.domain.mappings = domain.mappings ∧ c.names.domain.kind = .domain
  operations : c.operations = protocol.operations ++ domain.operations

theorem MadeOf.unique {c c' : Composition} {protocol domain : Document}
    (h : c.MadeOf protocol domain) (h' : c'.MadeOf protocol domain) : c = c' := by
  have names : c.names = c'.names := by
    have declared : c.names.types = c'.names.types :=
      Registry.eq_of_declarations (h.declarations.trans h'.declarations.symm)
    have first : c.names.protocol = c'.names.protocol :=
      NameTable.eq_of_mappings (h.protocolTable.1.trans h'.protocolTable.1.symm)
        (h.protocolTable.2.trans h'.protocolTable.2.symm)
    have second : c.names.domain = c'.names.domain :=
      NameTable.eq_of_mappings (h.domainTable.1.trans h'.domainTable.1.symm)
        (h.domainTable.2.trans h'.domainTable.2.symm)
    show Names.mk _ _ _ = Names.mk _ _ _
    rw [declared, first, second]
  have client : c.client = c'.client := Option.some.inj (h.client.symm.trans h'.client)
  show Composition.mk _ _ _ _ _ = Composition.mk _ _ _ _ _
  rw [h.protocolMetadata, h'.protocolMetadata, h.domainMetadata, h'.domainMetadata, names, client,
    h.operations, h'.operations]

/-- Two documents are composed exactly if what they make satisfies the rules. -/
theorem compose_eq_ok_iff {protocol domain : Document} {c : Composition} :
    compose protocol domain = .ok c ↔ c.MadeOf protocol domain ∧ c.Sound := by
  unfold compose
  cases hclient : protocol.client with
  | none =>
    simp only [throw, throwThe, MonadExceptOf.throw, reduceCtorEq, false_iff]
    rintro ⟨made, -⟩
    exact absurd (hclient.symm.trans made.client) (by simp)
  | some client =>
    simp only [↓check_bind_eq_ok, bind_eq_ok, pure_eq_ok, Registry.build_eq_ok_iff,
      Names.build_eq_ok_iff, checkRoles_eq_ok_iff, checkRole_eq_ok_iff, checkOperations_eq_ok_iff,
      Registry.get_eq_ok_iff]
    constructor
    · rintro ⟨types, ⟨declarations, checked, acyclic⟩, names,
        ⟨sound, rfl, protocolTable, domainTable⟩, ⟨each, operationEnum, packetStruct⟩, d, hd,
        ⟨wellFormed, distinct, named⟩, rfl⟩
      refine ⟨⟨rfl, rfl, hclient, declarations, protocolTable, domainTable, rfl⟩, {
        types := ⟨Registry.all_eq_ok_iff.mp checked, acyclic⟩
        names := sound
        roleMapped := fun role => (each role).2
        roleDeclared := fun role => (each role).1
        operationEnum
        packetStruct
        wellFormed
        operationsDistinct := distinct
        isMember := fun d' hd' => ?_ }⟩
      obtain rfl : d = d' := by simpa [types, hd] using hd'
      exact fun o ho => (named o ho).2
    · rintro ⟨made, sound⟩
      obtain rfl : client = c.client := Option.some.inj (hclient.symm.trans made.client)
      obtain ⟨d, tagBits, variants, hd, henum⟩ := sound.operationEnum
      refine ⟨c.types, ⟨made.declarations, Registry.all_eq_ok_iff.mpr sound.types.checked,
          sound.types.acyclic⟩, c.names, ⟨sound.names, rfl, made.protocolTable, made.domainTable⟩,
        ⟨fun role => ⟨sound.roleDeclared role, sound.roleMapped role⟩, sound.operationEnum,
          sound.packetStruct⟩, d, hd, ?_, ?_⟩
      · rw [← made.operations]
        exact ⟨sound.wellFormed, sound.operationsDistinct,
          fun o ho => ⟨by simp, sound.isMember d hd o ho⟩⟩
      · rw [← made.operations, ← made.protocolMetadata, ← made.domainMetadata]

/-- What is composed satisfies every rule that the generator relies on. -/
theorem sound_of_compose {protocol domain : Document} {c : Composition}
    (h : compose protocol domain = .ok c) : c.Sound := (compose_eq_ok_iff.mp h).2

end Composition

/-! ## Small documents -/

namespace Document

/-- A protocol document with no more than the roles need. -/
def bareProtocol : Document where
  metadata := ⟨"wire", 1, none⟩
  types := [⟨"op_t", .enum 8 [⟨"noop", 0⟩]⟩,
    ⟨"packet_t", .struct .cAbi [⟨"data", .pointer .untyped true, false⟩]⟩]
  mappings := [⟨"op_t", "Op", none⟩, ⟨"packet_t", "Packet", none⟩]
  operations := []
  client := some ⟨"lib", "wire", ⟨"op_t", "op_t", "packet_t", "op_t"⟩⟩

/-- A domain document of declarations and the names of some of them. -/
def ofDeclarations (types : List Declaration) (mappings : List (String × String)) : Document where
  metadata := ⟨"domain", 1, none⟩
  types
  mappings := mappings.map fun (type, name) => ⟨type, name, none⟩
  operations := []

end Document
end NativeBindings
