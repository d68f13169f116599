import NativeBindings.Proofs.FieldViews
import NativeBindings.Proofs.PackedWidths
import Mathlib.Algebra.Order.BigOperators.Group.List
import Mathlib.Algebra.Order.Ring.Int

/-!
# Flags and the bits of a packed struct

The class of a packed struct numbers its flags by the positions of the fields, while the integer at
the boundary gives every field as many bits as it is wide, one field after the other
(`EnumClass.IsFieldBit`). Both agree on a field as long as the fields before it are one bit wide.

* `Names.ctype_packed_eq_ok`: the integer at the boundary is exactly as wide as all fields together.
* `EnumClass.flags_by_position`: every flag is the bit at its field's position, and what it takes
  for that to be a bit of the field.
-/
namespace NativeBindings

/-! ## Bits of fields -/

namespace EnumClass

/-- The lowest bit of the field at a position of a packed struct whose fields are of some widths:
the bits of the fields before it come first. -/
def firstBit (widths : List Int) (position : Nat) : Int := (widths.take position).sum

/-- A bit of the field at a position. -/
def IsFieldBit (widths : List Int) (position : Nat) (bit : Int) : Prop :=
  firstBit widths position ≤ bit ∧ bit < firstBit widths (position + 1)

variable {widths : List Int} {position : Nat}

theorem length_le_sum (h : ∀ width ∈ widths, 1 ≤ width) : widths.length ≤ widths.sum := by
  simpa using List.card_nsmul_le_sum widths 1 h

/-- Fields that take at least a bit each take no more than that exactly if all are one bit wide. -/
theorem sum_eq_length_iff (h : ∀ width ∈ widths, 1 ≤ width) :
    widths.sum = widths.length ↔ ∀ width ∈ widths, width = 1 := by
  induction widths with
  | nil => simp
  | cons width rest ih =>
    rw [List.forall_mem_cons] at h
    have := length_le_sum h.2
    rw [List.forall_mem_cons, ← ih h.2, List.length_cons, List.sum_cons]
    omega

theorem firstBit_succ (h : position < widths.length) :
    firstBit widths (position + 1) = firstBit widths position + widths[position] := by
  rw [firstBit, firstBit, List.take_succ_eq_append_getElem h, List.sum_append]
  simp

/-- Every field lies within the width of all fields together. -/
theorem IsFieldBit.bounded {bit : Int} (h : IsFieldBit widths position bit)
    (counted : ∀ width ∈ widths, 0 ≤ width) : 0 ≤ bit ∧ bit < widths.sum := by
  have before : 0 ≤ firstBit widths position :=
    List.sum_nonneg fun width hw => counted width (List.mem_of_mem_take hw)
  have after : 0 ≤ (widths.drop (position + 1)).sum :=
    List.sum_nonneg fun width hw => counted width (List.mem_of_mem_drop hw)
  have whole : firstBit widths (position + 1) + (widths.drop (position + 1)).sum = widths.sum := by
    rw [firstBit, ← List.sum_append, List.take_append_drop]
  obtain ⟨lower, upper⟩ := h
  omega

/-- No field begins below its position if every field has a bit. -/
theorem le_firstBit (positive : ∀ width ∈ widths, 1 ≤ width) (h : position ≤ widths.length) :
    position ≤ firstBit widths position := by
  have before : (widths.take position).length ≤ firstBit widths position :=
    length_le_sum fun width hw => positive width (List.mem_of_mem_take hw)
  rwa [List.length_take_of_le h] at before

/-- A field begins at its position exactly if the fields before it are one bit wide. -/
theorem firstBit_eq_iff (positive : ∀ width ∈ widths, 1 ≤ width) (h : position ≤ widths.length) :
    firstBit widths position = position ↔ ∀ width ∈ widths.take position, width = 1 := by
  rw [← sum_eq_length_iff fun width hw => positive width (List.mem_of_mem_take hw),
    List.length_take_of_le h, firstBit]

/-- A field has the bit at its position exactly if it begins there. -/
theorem isFieldBit_iff (positive : ∀ width ∈ widths, 1 ≤ width) (h : position < widths.length) :
    IsFieldBit widths position position ↔ firstBit widths position = position := by
  have := le_firstBit positive h.le
  have := positive _ (List.getElem_mem h)
  rw [IsFieldBit, firstBit_succ h]
  omega

end EnumClass

/-- The representation of a packed struct is the unsigned integer of as many bits as its fields have
together, if none has a negative number of them. -/
theorem Names.ctype_packed_eq_ok {names : Names} {fields : Fields} {widths : List Int}
    (measured : names.types.HaveWidths fields widths) (counted : ∀ width ∈ widths, 0 ≤ width)
    {context : String} {ctype : Ctype}
    (h : names.ctype (.struct .packed fields) context = .ok ctype) :
    ∃ width : CtypeWidth, ctype = .unsigned width ∧ width.bits = widths.sum := by
  obtain ⟨total, found, lowered⟩ := bind_eq_ok.mp h
  obtain ⟨widths', measured', rfl⟩ := Registry.packedFieldsWidth_eq_ok_iff.mp found
  obtain rfl := measured.unique measured'
  obtain ⟨width, total, rfl⟩ := ofBits_eq_ok lowered
  have safe : roundedSum 0 widths ≤ Binary64.maxSafe := by
    have := CtypeWidth.bits_le width
    simp only [Binary64.maxSafe, Binary64.leastMantissa]
    omega
  refine ⟨width, rfl, ?_⟩
  rw [← total, roundedSum_eq_sum le_rfl counted safe, Int.zero_add]

/-! ## Flags -/

/-- The value of a member is a one shifted to a bit. -/
def EnumMember.IsBit (member : EnumMember) (bit : Int) : Prop :=
  ∃ position : Nat, (position : Int) = bit ∧ member.value = 2 ^ position

namespace EnumMember

variable {member : EnumMember} {bit bit' : Int}

theorem IsBit.unique (h : member.IsBit bit) (h' : member.IsBit bit') : bit = bit' := by
  obtain ⟨position, rfl, value⟩ := h
  obtain ⟨position', rfl, value'⟩ := h'
  rw [value] at value'
  exact congrArg _ (Nat.pow_right_injective le_rfl (by exact_mod_cast value'))

theorem IsBit.iff_eq (h : member.IsBit bit) : member.IsBit bit' ↔ bit' = bit :=
  ⟨fun h' => h'.unique h, fun same => same ▸ h⟩

end EnumMember

namespace EnumClass

variable {d : Declaration} {fields : Fields} {name : String} {skip : List String}

theorem ofField_isBit (name : String) (position : Nat) : (ofField name position).IsBit position :=
  ⟨position, rfl, by simp [ofField]⟩

theorem checkSkip_eq_ok_iff (type : String) {declared : List String} :
    checkSkip type skip declared = .ok () ↔ ∀ member ∈ skip, member ∈ declared := by
  unfold checkSkip
  split
  · rename_i member found
    have listed := List.mem_of_find?_eq_some found
    have missing : member ∉ declared := by simpa using List.find?_some found
    simpa using ⟨member, listed, missing⟩
  · rename_i none
    simpa using none

/-- A packed struct has a class if all names to skip are declared: the member for no flags, and the
flags of the exposed fields. -/
theorem build_packed_isOk (packed : d.type = .struct .packed fields)
    (valid : ∀ member ∈ skip, member ∈ fields.map (·.name)) :
    build d name skip = .ok ⟨name, .flags, noFlags ::
      (fields.zipIdx.filter (·.1.name ∉ skip)).map fun (field, position) =>
        ofField field.name position⟩ := by
  have passed := (checkSkip_eq_ok_iff d.name).mpr valid
  simp only [build, packed, passed]
  rfl

variable {names : Names} {widths : List Int}

/-- The flags of a packed struct are numbered by the positions of its fields, so a flag is the
lowest bit of its field exactly if the fields before have as many bits as there are of them. Where
every field has a bit, that means that the fields before are one bit wide, and any other flag lies
outside of its field. The bits of all fields are bits of the integer at the boundary, unless a field
has a negative number of them. -/
theorem flags_by_position (packed : d.type = .struct .packed fields)
    (measured : names.types.HaveWidths fields widths)
    (valid : ∀ member ∈ skip, member ∈ fields.map (·.name)) :
    ∃ flags, build d name skip = .ok ⟨name, .flags, noFlags :: flags⟩ ∧
      List.Forall₂ (fun (field : Field NativeType × Nat) flag =>
        flag.name = Naming.upper field.1.name ∧ flag.IsBit field.2 ∧
        (flag.IsBit (firstBit widths field.2) ↔ firstBit widths field.2 = field.2) ∧
        ((∀ width ∈ widths, 1 ≤ width) →
          (firstBit widths field.2 = field.2 ↔ ∀ width ∈ widths.take field.2, width = 1) ∧
          (firstBit widths field.2 = field.2 ↔
            ∃ bit, IsFieldBit widths field.2 bit ∧ flag.IsBit bit)) ∧
        ((∀ width ∈ widths, 0 ≤ width) →
          ∀ context ctype, names.ctype d.type context = .ok ctype →
            ∃ width, ctype = .unsigned width ∧
              ∀ bit, IsFieldBit widths field.2 bit → 0 ≤ bit ∧ bit < width.bits))
        (fields.zipIdx.filter (·.1.name ∉ skip)) flags := by
  refine ⟨_, build_packed_isOk packed valid, ?_⟩
  rw [List.forall₂_map_right_iff, List.forall₂_same]
  rintro ⟨field, position⟩ exposed
  have listed := (List.mem_zipIdx' (List.mem_filter.mp exposed).1).1
  have inside : position < widths.length := measured.length_eq ▸ listed
  have flagged := ofField_isBit field.name position
  refine ⟨rfl, flagged, flagged.iff_eq, fun positive => ⟨firstBit_eq_iff positive inside.le, ?_⟩,
    fun counted context ctype lowered => ?_⟩
  · rw [← isFieldBit_iff positive inside]
    constructor
    · exact fun own => ⟨position, own, flagged⟩
    · rintro ⟨bit, own, flagged'⟩
      exact flagged'.unique flagged ▸ own
  · rw [packed] at lowered
    obtain ⟨width, rfl, total⟩ := names.ctype_packed_eq_ok measured counted lowered
    refine ⟨width, rfl, fun bit own => ?_⟩
    rw [total]
    exact own.bounded counted

/-- The fields of a packed struct with a wider field before its last flag. -/
def modeFields : Fields :=
  [⟨"linked", .bool, false⟩, ⟨"mode", .ref "mode_t", false⟩, ⟨"pending", .bool, false⟩,
    ⟨"padding", .int 4 false, false⟩]

/-- The packed struct of these fields, and the enum that one of them is of. -/
def modeTypes : Registry where
  declarations := [⟨"mode_t", .enum 2 [⟨"idle", 0⟩, ⟨"busy", 1⟩]⟩,
    ⟨"flags_t", .struct .packed modeFields⟩]
  distinct := by decide

theorem modeFields_haveWidths : modeTypes.HaveWidths modeFields [1, 2, 1, 4] :=
  .cons ⟨"linked", rfl⟩ (.cons ⟨"mode", rfl⟩ (.cons ⟨"pending", rfl⟩ (.cons ⟨"padding", rfl⟩ .nil)))

theorem flags_by_position_modeFields : Registry.build modeTypes.declarations = .ok modeTypes ∧
    ∃ flags, build ⟨"flags_t", .struct .packed modeFields⟩ "Flags" ["padding"] =
        .ok ⟨"Flags", .flags, noFlags :: flags⟩ ∧
      List.Forall₂ (fun position flag => flag.IsBit position) [0, 1, 2] flags := by
  obtain ⟨flags, built, each⟩ :=
    @flags_by_position ⟨"flags_t", .struct .packed modeFields⟩ modeFields "Flags" ["padding"]
      ⟨modeTypes, default, default⟩ [1, 2, 1, 4] rfl modeFields_haveWidths (by decide)
  refine ⟨rfl, flags, built, ?_⟩
  cases each with
  | cons linked rest =>
    cases rest with
    | cons mode rest =>
      cases rest with
      | cons pending rest =>
        cases rest
        exact .cons linked.2.1 (.cons mode.2.1 (.cons pending.2.1 .nil))

/-- The flag of a field behind a wider one is not the lowest bit of its field, but a bit of the
wider field. -/
theorem flag_in_wider_field : Registry.build modeTypes.declarations = .ok modeTypes ∧
    modeTypes.HaveWidths modeFields [1, 2, 1, 4] ∧
    ∃ class' flag, build ⟨"flags_t", .struct .packed modeFields⟩ "Flags" ["padding"] = .ok class' ∧
      class'.members.filter (·.name == Naming.upper "pending") = [flag] ∧
      ¬ flag.IsBit (firstBit [1, 2, 1, 4] 2) ∧
      ∀ bit, flag.IsBit bit →
        ¬ IsFieldBit [1, 2, 1, 4] 2 bit ∧ IsFieldBit [1, 2, 1, 4] 1 bit := by
  have flagged := ofField_isBit "pending" 2
  refine ⟨rfl, modeFields_haveWidths, _, ofField "pending" 2, rfl, by decide, ?_, fun bit h => ?_⟩
  · rw [flagged.iff_eq]
    decide
  · obtain rfl := flagged.iff_eq.mp h
    simp [IsFieldBit, firstBit]

end EnumClass
end NativeBindings
