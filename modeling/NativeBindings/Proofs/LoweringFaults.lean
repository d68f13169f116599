import NativeBindings.Lowering
import NativeBindings.Proofs.SoundRegistry

/-!
# Faults of lowering

Lowering a well-formed type over a sound registry either succeeds or says what is wrong with the
type: it has no representation, or a declaration has no generated name. It never meets an
undeclared name, an enum or struct without a name, an alias of itself, or references without end.
-/
namespace NativeBindings

/-- A fault that a user of checked documents may meet: a type without a representation, a
declaration without a generated name, or a list of members to skip that names none. -/
def Fault.Foreseen (fault : Fault) : Prop :=
  fault.category = .lowering ∨ fault.category = .mapping ∨
    ∃ type member, fault = .skipUndeclared type member

/-- A step that succeeds, or ends in a foreseen fault. -/
abbrev Foreseeable {α : Type} (x : Except Fault α) : Prop := OnlyFaults Fault.Foreseen x

namespace Foreseeable

variable {α : Type}

theorem lowering {fault : Fault} (h : fault.category = .lowering) :
    Foreseeable (.error fault : Except Fault α) := OnlyFaults.error (.inl h)

theorem mapping {fault : Fault} (h : fault.category = .mapping) :
    Foreseeable (.error fault : Except Fault α) := OnlyFaults.error (.inr (.inl h))

end Foreseeable

/-- A step that succeeds, or meets a type without a representation. -/
abbrev OnlyLowering {α : Type} (x : Except Fault α) : Prop := OnlyFaults (·.category = .lowering) x

theorem OnlyLowering.foreseeable {α : Type} {x : Except Fault α} (h : OnlyLowering x) :
    Foreseeable x := fun fault e => .inl (h fault e)

/-- A step that goes on with the declaration of a declared name. -/
theorem Registry.get_bind_onlyFaults {α : Type} {P : Fault → Prop} {types : Registry}
    {name : String} {d : Declaration} {next : Declaration → Except Fault α}
    (found : types.find? name = some d) (h : OnlyFaults P (next d)) :
    OnlyFaults P (types.get name >>= next) := by
  rw [get_eq_ok_iff.mpr found]
  exact h

/-! ## Packed widths -/

mutual

theorem packedWidthWith_onlyLowering {onReference : OnReference Int} :
    ∀ (type : NativeType) (context : String),
      (∀ name ∈ type.valueRefs, ∀ context, OnlyLowering (onReference name context)) →
      OnlyLowering (packedWidthWith onReference type context)
  | .bool, _, _ => .ok 1
  | .enum tagBits _, _, _ => .ok tagBits
  | .int bits signed, context, _ => by
    unfold packedWidthWith
    split
    · exact .error rfl
    · exact .ok bits
  | .struct layout fields, context, h => by
    cases layout with
    | packed => exact packedFieldsWidthWith_onlyLowering fields 0 context h
    | cAbi => exact .error rfl
    | auto => exact .error rfl
  | .ref name, context, h => h name (by simp [NativeType.valueRefs]) context
  | .void, _, _ | .untyped, _, _ | .float _, _, _ => .error rfl
  | .array _ _, _, _ | .pointer _ _, _, _ => .error rfl

theorem packedFieldsWidthWith_onlyLowering {onReference : OnReference Int} :
    ∀ (fields : Fields) (before : Int) (context : String),
      (∀ name ∈ fieldValueRefs fields, ∀ context, OnlyLowering (onReference name context)) →
      OnlyLowering (packedFieldsWidthWith onReference before fields context)
  | [], before, _, _ => .ok before
  | ⟨_, type, _⟩ :: rest, before, context, h => by
    simp only [fieldValueRefs, List.mem_append, or_imp, forall_and] at h
    refine .bind (packedWidthWith_onlyLowering type _ h.1) fun width _ => ?_
    exact packedFieldsWidthWith_onlyLowering rest _ context h.2

end

namespace Registry.Sound

variable {types : Registry}

theorem packedReference_onlyLowering (sound : types.Sound) : ∀ (depth : Nat) (name : String),
    types.has name = true → types.height name < depth →
      ∀ context, OnlyLowering (types.packedReference depth name context) := by
  refine sound.reference_induction fun depth name d hd inner context => ?_
  exact get_bind_onlyFaults hd (packedWidthWith_onlyLowering d.type context inner)

theorem packedFieldsWidth_onlyLowering (sound : types.Sound) {fields : Fields} (layout : Layout)
    (bounded : types.Bounded types.size (.struct layout fields)) (context : String) :
    OnlyLowering (types.packedFieldsWidth fields context) := by
  refine packedFieldsWidthWith_onlyLowering fields 0 context fun name mention => ?_
  obtain ⟨declared, low⟩ := bounded name mention
  exact sound.packedReference_onlyLowering types.size name declared low

/-- The width of a declared packed struct. -/
theorem packedFieldsWidth_onlyLowering_of_find? (sound : types.Sound) {name : String}
    {d : Declaration} {layout : Layout} {fields : Fields} (found : types.find? name = some d)
    (struct : d.type = .struct layout fields) (context : String) :
    OnlyLowering (types.packedFieldsWidth fields context) := by
  have bounded := (sound.bounded_of_find? found).mono (sound.height_lt_size (has_of_find? found)).le
  rw [struct] at bounded
  exact sound.packedFieldsWidth_onlyLowering layout bounded context

/-! ## Following aliases -/

theorem resolve_foreseeable (sound : types.Sound) {type : NativeType} (h : type.WellFormed types) :
    Foreseeable (types.resolve type) := by
  obtain ⟨resolved, ends⟩ := sound.resolve_isOk h
  rw [ends]
  exact .ok resolved

theorem underlying_foreseeable (sound : types.Sound) {type : NativeType}
    (h : type.WellFormed types) : Foreseeable (types.underlying type) :=
  .map _ (sound.resolve_foreseeable h)

end Registry.Sound

namespace Names

variable {names : Names}

theorem require_foreseeable (names : Names) (type context : String) :
    Foreseeable (names.require type context) := by
  unfold require
  split
  · exact .ok _
  · exact .mapping rfl

theorem requireDomain_foreseeable (names : Names) (type context : String) :
    Foreseeable (names.requireDomain type context) := by
  unfold requireDomain
  split
  · exact .ok _
  · exact .mapping rfl

/-! ## Ctypes -/

theorem ofBits_onlyLowering (bits : Int) (context : String) :
    OnlyLowering (Ctype.ofBits bits context) := by
  unfold Ctype.ofBits
  split
  · exact .ok _
  · exact .error rfl

theorem pointerCtype_foreseeable (names : Names) (pointee : NativeType) (context : String) :
    Foreseeable (names.pointerCtype pointee context) := by
  unfold pointerCtype
  split
  · exact .ok _
  · exact .map _ (names.require_foreseeable _ _)
  · exact .lowering rfl

theorem ctypeWith_foreseeable (sound : names.types.Sound) {onReference : OnReference Ctype}
    (type : NativeType) (context : String) (bounded : names.types.Bounded names.types.size type)
    (inner : ∀ name ∈ type.valueRefs, ∀ context, Foreseeable (onReference name context)) :
    Foreseeable (names.ctypeWith onReference type context) := by
  fun_induction ctypeWith names onReference type context with
  | case1 element length context ih => exact .map _ (ih bounded inner)
  | case2 tagBits variants context => exact (ofBits_onlyLowering tagBits context).foreseeable
  | case3 fields context =>
    exact .bind (sound.packedFieldsWidth_onlyLowering .packed bounded context).foreseeable
      fun width _ => (ofBits_onlyLowering width context).foreseeable
  | case4 => exact .lowering rfl
  | case5 => exact .ok _
  | case6 => exact .lowering rfl
  | case7 => exact (ofBits_onlyLowering _ _).foreseeable
  | case8 pointee nullable context => exact names.pointerCtype_foreseeable pointee context
  | case9 => exact .ok _
  | case10 name context => exact inner name (by simp [NativeType.valueRefs]) context
  | case11 => exact .lowering rfl
  | case12 => exact .lowering rfl

theorem ctypeOfReference_foreseeable (sound : names.types.Sound) : ∀ (depth : Nat) (name : String),
    names.types.has name = true → names.types.height name < depth →
      ∀ context, Foreseeable (names.ctypeOfReference depth name context) := by
  refine sound.reference_induction fun depth name d hd inner context => ?_
  have declared := Registry.has_of_find? hd
  have bounded := (sound.bounded_of_find? hd).mono (sound.height_lt_size declared).le
  exact Registry.get_bind_onlyFaults hd (ctypeWith_foreseeable sound d.type _ bounded inner)

/-- The representation of a well-formed type. -/
theorem ctype_foreseeable (sound : names.types.Sound) {type : NativeType}
    (h : type.WellFormed names.types) (context : String) :
    Foreseeable (names.ctype type context) := by
  have bounded := sound.bounded_of_wellFormed h
  refine ctypeWith_foreseeable sound type context bounded fun name mention => ?_
  obtain ⟨declared, low⟩ := bounded name mention
  exact ctypeOfReference_foreseeable sound _ name declared low

theorem isWide_foreseeable (sound : names.types.Sound) {type : NativeType}
    (h : type.WellFormed names.types) : Foreseeable (names.isWide type) :=
  .map _ (sound.underlying_foreseeable h)

theorem wrapper_foreseeable (sound : names.types.Sound) {type : NativeType}
    (h : type.WellFormed names.types) (context : String) :
    Foreseeable (names.wrapper type context) := by
  refine .bind (sound.resolve_foreseeable h) fun resolved _ => ?_
  split
  · exact .pure _
  · split
    · exact .bind (names.require_foreseeable _ _) fun _ _ => .pure _
    · exact Foreseeable.lowering rfl

/-! ## Value types -/

theorem hintWith_foreseeable {types : Registry} {onReference : OnReference TypeHint}
    (type : NativeType) (context : String) (h : type.WellFormed types)
    (inner : ∀ name ∈ type.valueRefs, ∀ context, Foreseeable (onReference name context)) :
    Foreseeable (hintWith onReference type context) := by
  fun_induction hintWith onReference type context with
  | case1 name context => exact inner name (by simp [NativeType.valueRefs]) context
  | case2 element length context ih => exact .map _ (ih h.2 inner)
  | case3 => exact .ok _
  | case4 => exact .lowering rfl
  | case5 => exact .ok _
  | case6 => exact .ok _
  | case7 => exact h.elim
  | case8 => exact h.elim
  | case9 => exact .lowering rfl

theorem hintOfReference_foreseeable (sound : names.types.Sound) : ∀ (depth : Nat) (name : String),
    names.types.has name = true → names.types.height name < depth →
      ∀ context, Foreseeable (names.hintOfReference depth name context) := by
  refine sound.reference_induction fun depth name d hd inner context => ?_
  refine Registry.get_bind_onlyFaults hd ?_
  cases nominal : d.type.isNominal with
  | true => exact .bind (names.requireDomain_foreseeable _ _) fun _ _ => .pure _
  | false => exact hintWith_foreseeable d.type _ (sound.alias_wellFormed hd nominal) inner

/-- The type hint of a well-formed type. -/
theorem hint_foreseeable (sound : names.types.Sound) {type : NativeType}
    (h : type.WellFormed names.types) (context : String) :
    Foreseeable (names.hint type context) := by
  refine hintWith_foreseeable type context h fun name mention => ?_
  obtain ⟨declared, low⟩ := sound.bounded_of_wellFormed h name mention
  exact hintOfReference_foreseeable sound _ name declared low

theorem defaultWith_foreseeable {types : Registry} {onReference : OnReference DefaultValue}
    (type : NativeType) (context : String) (h : type.WellFormed types)
    (inner : ∀ name ∈ type.valueRefs, ∀ context, Foreseeable (onReference name context)) :
    Foreseeable (defaultWith onReference type context) := by
  fun_induction defaultWith onReference type context with
  | case1 name context => exact inner name (by simp [NativeType.valueRefs]) context
  | case2 element length context ih => exact .map _ (ih h.2 inner)
  | case3 => exact .ok _
  | case4 => exact .ok _
  | case5 => exact .ok _
  | case6 => exact h.elim
  | case7 => exact h.elim
  | case8 => exact .lowering rfl

theorem defaultOfReference_foreseeable (sound : names.types.Sound) :
    ∀ (depth : Nat) (name : String), names.types.has name = true →
      names.types.height name < depth →
      ∀ context, Foreseeable (names.defaultOfReference depth name context) := by
  refine sound.reference_induction fun depth name d hd inner context => ?_
  refine Registry.get_bind_onlyFaults hd ?_
  split
  · exact .bind (names.requireDomain_foreseeable _ _) fun _ _ => .pure _
  · exact Foreseeable.lowering rfl
  · exact .ok _
  · rename_i notPacked notStruct notEnum
    have structural : d.type.isNominal = false := by
      cases htype : d.type with
      | struct layout fields => exact absurd htype (notStruct layout fields)
      | enum tagBits variants => exact absurd htype (notEnum tagBits variants)
      | _ => rfl
    exact defaultWith_foreseeable d.type _ (sound.alias_wellFormed hd structural) inner

/-- The default of a well-formed type. -/
theorem defaultValue_foreseeable (sound : names.types.Sound) {type : NativeType}
    (h : type.WellFormed names.types) (context : String) :
    Foreseeable (names.defaultValue type context) := by
  refine defaultWith_foreseeable type context h fun name mention => ?_
  obtain ⟨declared, low⟩ := sound.bounded_of_wellFormed h name mention
  exact defaultOfReference_foreseeable sound _ name declared low

end Names
end NativeBindings
