import NativeBindings.Proofs.Assembly
import NativeBindings.Proofs.Composed
import NativeBindings.Proofs.LoweringFaults

/-!
# Faults of generation

Generating from a composition and valid options ends in a module, or in a fault that its user can
do something about: a type without a representation, a declaration without a generated name, or a
list of members to skip that names none. The states that checked documents rule out never arise,
and the names of the roles are always found.

Each pass is foreseeable for the entries that it is given, because the rules of composed documents
(`Composition.Sound`) make the types it lowers well formed.
-/
namespace NativeBindings

/-! ## Enum classes -/

namespace EnumClass

theorem checkSkip_foreseeable (type : String) (skip declared : List String) :
    Foreseeable (checkSkip type skip declared) := by
  unfold checkSkip
  split
  · rename_i member _
    exact .error (.inr (.inr ⟨type, member, rfl⟩))
  · exact .ok ()

/-- Building the class of an enum or a packed struct. -/
theorem build_foreseeable (d : Declaration) (name : String) (skip : List String)
    (h : (∃ tagBits variants, d.type = .enum tagBits variants) ∨
      ∃ fields, d.type = .struct .packed fields) : Foreseeable (build d name skip) := by
  unfold build
  rcases h with ⟨tagBits, variants, h⟩ | ⟨fields, h⟩
  · rw [h]
    exact .bind (checkSkip_foreseeable _ _ _) fun _ _ => .pure _
  · rw [h]
    exact .bind (checkSkip_foreseeable _ _ _) fun _ _ => .pure _

end EnumClass

/-! ## Records and bindings -/

variable {names : Names} {f : Field NativeType}

theorem Record.field_foreseeable (sound : names.types.Sound) (owner : String)
    (h : f.type.WellFormed names.types) : Foreseeable (Record.field names owner f) := by
  refine .bind (names.hint_foreseeable sound h _) fun hint _ => ?_
  exact .bind (names.defaultValue_foreseeable sound h _) fun default _ => .pure _

namespace StructBinding

theorem check?_foreseeable (sound : names.types.Sound) (owner : String)
    (h : f.type.WellFormed names.types) : Foreseeable (check? names owner f) := by
  refine .bind (sound.underlying_foreseeable h) fun underlying _ => ?_
  split
  · exact Foreseeable.lowering rfl
  · exact .pure _
  · exact .pure _

theorem store_foreseeable (sound : names.types.Sound) (h : f.type.WellFormed names.types) :
    Foreseeable (store names f) :=
  .bind (names.isWide_foreseeable sound h) fun _ _ => .pure _

theorem checkAndStore_foreseeable (sound : names.types.Sound) (owner : String)
    (h : f.type.WellFormed names.types) : Foreseeable (checkAndStore names owner f) := by
  refine .bind (check?_foreseeable sound owner h) fun check _ => ?_
  exact .bind (store_foreseeable sound h) fun stored _ => .pure _

theorem restore_foreseeable (sound : names.types.Sound) (h : f.type.WellFormed names.types) :
    Foreseeable (restore names f) := by
  refine .bind (sound.resolve_foreseeable h) fun resolved _ => ?_
  dsimp only
  split
  · exact .pure _
  · exact .pure _

theorem layoutField_foreseeable (sound : names.types.Sound) (owner : String)
    (h : f.type.WellFormed names.types) : Foreseeable (layoutField names owner f) :=
  .bind (names.ctype_foreseeable sound h _) fun _ _ => .pure _

/-- Building the binding of a struct of the platform's layout, from fields of well-formed types. -/
theorem build_foreseeable (sound : names.types.Sound) {d : Declaration} {fields : Fields}
    (name : String) (withRecord : Bool) (struct : d.type = .struct .cAbi fields)
    (h : ∀ f ∈ fields, f.type.WellFormed names.types) :
    Foreseeable (build names d name withRecord) := by
  have exposed : ∀ f ∈ Fields.exposed fields, f.type.WellFormed names.types :=
    fun f hf => h f (Fields.mem_of_mem_exposed hf)
  rw [build_of_struct name withRecord struct]
  refine .bind (.mapM fun f hf => checkAndStore_foreseeable sound d.name (exposed f hf))
    fun inward _ => ?_
  have restored : Foreseeable (if withRecord then
      some <$> (Fields.exposed fields).mapM (restore names) else pure none) := by
    split
    · exact .map some (.mapM fun f hf => restore_foreseeable sound (exposed f hf))
    · exact .pure none
  refine .bind restored fun restored _ => ?_
  exact .bind (.mapM fun f hf => layoutField_foreseeable sound d.name (h f hf)) fun _ _ => .pure _

end StructBinding

theorem Record.build_foreseeable (sound : names.types.Sound) {d : Declaration} {fields : Fields}
    (name : String) (struct : d.type = .struct .cAbi fields)
    (h : ∀ f ∈ fields, f.type.WellFormed names.types) : Foreseeable (build names d name) := by
  unfold build
  rw [struct]
  refine .bind (.mapM fun f hf => ?_) fun fields _ => .pure _
  exact field_foreseeable sound d.name (h f (Fields.mem_of_mem_exposed hf))

/-! ## Passes -/

namespace NamedDeclaration

variable {e : NamedDeclaration}

theorem definition?_foreseeable (sound : names.types.Sound)
    (h : names.types.find? e.mapping.type = some e.declaration) :
    Foreseeable (e.definition? names) := by
  cases nominal : e.declaration.type.isNominal with
  | false =>
    rw [definition?_of_structural names nominal]
    exact .map _ (names.ctype_foreseeable sound (sound.alias_wellFormed h nominal) _)
  | true =>
    unfold definition?
    cases htype : e.declaration.type with
    | enum tagBits variants =>
      exact .map _ (EnumClass.build_foreseeable _ _ _ (.inl ⟨tagBits, variants, htype⟩))
    | struct layout fields =>
      cases layout with
      | cAbi => exact .ok none
      | packed => exact .map _ (EnumClass.build_foreseeable _ _ _ (.inr ⟨fields, htype⟩))
      | auto => exact Foreseeable.lowering rfl
    | _ => simp [htype, NativeType.isNominal] at nominal

theorem record_foreseeable (sound : names.types.Sound)
    (h : names.types.find? e.mapping.type = some e.declaration) (struct : e.isStruct = true) :
    Foreseeable (e.record names) := by
  obtain ⟨fields, struct⟩ := isStruct_iff.mp struct
  exact Record.build_foreseeable sound _ struct (sound.field_wellFormed h struct)

theorem binding_foreseeable (sound : names.types.Sound)
    (h : names.types.find? e.mapping.type = some e.declaration) (struct : e.isStruct = true) :
    Foreseeable (e.binding names) := by
  obtain ⟨fields, struct⟩ := isStruct_iff.mp struct
  exact StructBinding.build_foreseeable sound _ _ struct (sound.field_wellFormed h struct)

end NamedDeclaration

theorem MethodSignature.build_foreseeable (sound : names.types.Sound) (operations : OperationEnum)
    {o : Operation} (h : o.event.WellFormed names.types ∧ o.result.WellFormed names.types) :
    Foreseeable (build names operations o) := by
  unfold build
  split
  · exact Foreseeable.lowering rfl
  refine .bind (names.hint_foreseeable sound h.1 _) fun event _ => ?_
  refine .bind (names.hint_foreseeable sound h.2 _) fun result _ => ?_
  refine .bind (names.wrapper_foreseeable sound h.1 _) fun eventWrapper _ => ?_
  exact .bind (names.wrapper_foreseeable sound h.2 _) fun resultWrapper _ => .pure _

namespace Composition

variable {c : Composition}

theorem Sound.roleName_isOk (sound : c.Sound) (role : Role) :
    ∃ name, c.roleName role = .ok name := by
  obtain ⟨name, mapped⟩ := sound.roleMapped role
  exact ⟨name, by simp [roleName, Names.require, mapped]⟩

theorem Sound.entryPoints_isOk (sound : c.Sound) : ∃ e, c.entryPoints = .ok e := by
  obtain ⟨status, hstatus⟩ := sound.roleName_isOk .status
  obtain ⟨packet, hpacket⟩ := sound.roleName_isOk .packet
  obtain ⟨handle, hhandle⟩ := sound.roleName_isOk .handle
  simp only [entryPoints, bind_eq_ok, pure_eq_ok]
  exact ⟨_, status, hstatus, packet, hpacket, handle, hhandle, rfl⟩

theorem Sound.operationEnum_isOk (sound : c.Sound) : ∃ o, c.operationEnum = .ok o := by
  obtain ⟨name, hname⟩ := sound.roleName_isOk .operation
  obtain ⟨d, tagBits, variants, hd, henum⟩ := sound.operationEnum
  simp only [Composition.operationEnum, bind_eq_ok, pure_eq_ok, Registry.get_eq_ok_iff]
  exact ⟨_, name, hname, d, hd, rfl⟩

/-- Every pass over a sound composition is foreseeable, and so is their sequence. -/
theorem Sound.assemble_foreseeable (sound : c.Sound) (options : GeneratorOptions) :
    Foreseeable (c.assemble options) := by
  obtain ⟨entries, listed⟩ := sound.names.all_isOk
  obtain ⟨protocol, domain, rfl, hdomain, -, -, -, found⟩ := Names.all_eq_ok listed
  obtain ⟨entryPoints, hentryPoints⟩ := sound.entryPoints_isOk
  obtain ⟨operationEnum, hoperationEnum⟩ := sound.operationEnum_isOk
  unfold assemble
  -- What only repeats checks of the composition succeeds; the passes in between are foreseeable.
  rw [listed, hdomain, hentryPoints, hoperationEnum]
  refine .bind (.ok _) fun _ same => ?_
  cases same
  refine .bind (.mapM fun e he => ?_) fun definitions _ => ?_
  · exact NamedDeclaration.definition?_foreseeable sound.types (found e he)
  refine .bind (.ok _) fun _ same => ?_
  cases same
  refine .bind (.mapM fun e he => ?_) fun records _ => ?_
  · obtain ⟨he, struct⟩ := List.mem_filter.mp he
    exact NamedDeclaration.record_foreseeable sound.types
      (found e (List.mem_append_right _ he)) struct
  refine .bind (.mapM fun e he => ?_) fun bindings _ => ?_
  · obtain ⟨he, struct⟩ := List.mem_filter.mp he
    exact NamedDeclaration.binding_foreseeable sound.types (found e he) struct
  refine .bind (.ok _) fun _ _ => .bind (.ok _) fun _ _ => ?_
  refine .bind (.mapM fun o ho => ?_) fun methods _ => .pure _
  exact MethodSignature.build_foreseeable sound.types _
    (sound.wellFormed o (List.mem_of_mem_filter ho))

/-- Generating from what was composed, with valid options, never ends in a state that checked
documents rule out: the roles have their names, and a fault is about a type without a
representation, a declaration without a generated name, or a skipped member that is none. -/
theorem generateText_faults_foreseen {protocol domain : Document} {c : Composition}
    {options : Option Value} {resolved : GeneratorOptions}
    (composed : compose protocol domain = .ok c)
    (valid : GeneratorOptions.resolve options = .ok resolved) :
    (∀ role, ∃ name, c.roleName role = .ok name) ∧ (∃ e, c.entryPoints = .ok e) ∧
      (∃ o, c.operationEnum = .ok o) ∧
      ∀ fault, (c.generateText options).runLog.1 = .error fault →
        fault.category = .lowering ∨ fault.category = .mapping ∨
          ∃ type member, fault = .skipUndeclared type member := by
  have sound := sound_of_compose composed
  refine ⟨sound.roleName_isOk, sound.entryPoints_isOk, sound.operationEnum_isOk,
    fun fault failed => ?_⟩
  rw [runLog_generateText c valid] at failed
  exact (sound.assemble_foreseeable resolved).map (·.text) fault failed

/-- A struct that points to a declaration without a generated name. -/
def unmappedPointer : Document :=
  .ofDeclarations
    [⟨"ghost_t", .bool⟩,
      ⟨"node_t", .struct .cAbi [⟨"ghost", .pointer (.ref "ghost_t") false, true⟩]⟩]
    [("node_t", "Node")]

theorem generateText_faults_foreseen_unmappedPointer :
    ∃ c resolved fault, compose .bareProtocol unmappedPointer = .ok c ∧
      GeneratorOptions.resolve none = .ok resolved ∧
      (c.generateText none).runLog.1 = .error fault ∧ fault.category = .mapping ∧
      (fault.category = .lowering ∨ fault.category = .mapping ∨
        ∃ type member, fault = .skipUndeclared type member) := by
  refine ⟨_, _, .unmapped "ghost_t" "node_t.ghost", rfl, rfl, rfl, rfl, ?_⟩
  have foreseen := @generateText_faults_foreseen .bareProtocol unmappedPointer _ none _ rfl rfl
  exact foreseen.2.2.2 _ rfl

end Composition
end NativeBindings
