import NativeBindings.Proofs.FlagPositions
import NativeBindings.Proofs.MemberNames
import NativeBindings.Proofs.WideFields
import NativeBindings.Proofs.WrittenTypes

/-!
# Values of members

Every class of a declaration has some of the members that the declaration can give it
(`NativeType.allMembers`), so what holds of these holds of every class, whatever it leaves out.

* `MemberExpression.Denotes`: what the text of a member's value denotes, in a language where `<<`
  associates to the left and only zero begins with the digit zero; `Denotes.unique`: one value.
* `EnumClass.members_of_build`: the members of a class. What is left out changes none of the others.
* `NativeType.nodup_values` and `values_bounded`: the values are distinct and fit the integer at the
  boundary. For an enum that is a rule for its declaration. For a packed struct it takes that every
  field has a bit: then there are no more fields than bits.
* `EnumClass.member_values`: all of this for the classes of declarations that pass.
-/
namespace NativeBindings

open Text

/-! ## Expressions -/

/-- A numeral as programs write it: only zero begins with the digit zero. -/
def Text.IsDecimal (digits : List Char) (value : Nat) : Prop :=
  IsNumeral digits value ∧ (digits.head? = some '0' → value = 0)

theorem Text.eq_zero_of_head?_toDigits (n : Nat) (h : (Nat.toDigits 10 n).head? = some '0') :
    n = 0 := by
  induction n using Nat.strongRecOn with
  | ind n ih =>
    rw [Nat.toDigits_eq_if (by decide)] at h
    by_cases digit : n < 10
    · simpa [digit] using h
    · -- The first digit is that of a tenth, which is not zero.
      rw [if_neg digit, List.head?_append_of_ne_nil _ Nat.toDigits_ne_nil] at h
      have := ih (n / 10) (by omega) h
      omega

theorem Text.isDecimal_toDigits (n : Nat) : IsDecimal (Nat.toDigits 10 n) n :=
  ⟨isNumeral_toDigits n, eq_zero_of_head?_toDigits n⟩

namespace MemberExpression

/-- What an expression denotes: a numeral its number, and a shift the number on its left, doubled
as often as the numeral on its right says. -/
inductive Denotes : List Char → Int → Prop
  | numeral {digits : List Char} {value : Nat} (decimal : IsDecimal digits value) :
      Denotes digits value
  | shift {left digits : List Char} {value : Int} {distance : Nat} (denoted : Denotes left value)
      (decimal : IsDecimal digits distance) :
      Denotes (left ++ " << ".toList ++ digits) (value * 2 ^ distance)

theorem shift_ne_digits {left digits digits' : List Char} {value : Nat}
    (decimal : IsDecimal digits' value) : left ++ " << ".toList ++ digits ≠ digits' := by
  rintro rfl
  exact notMem_blank_of_isNumeral decimal.1 (by simp)

/-- No text denotes two values. -/
theorem Denotes.unique {text : List Char} {value value' : Int} (h : Denotes text value)
    (h' : Denotes text value') : value = value' := by
  -- On the derivation: the last blank separates the last distance from the rest.
  induction h generalizing value' with
  | @numeral digits value decimal =>
    generalize same : digits = text at h'
    cases h' with
    | numeral decimal' =>
      obtain rfl := same
      rw [← decimal.1.digitsValue_eq, ← decimal'.1.digitsValue_eq]
    | shift => exact absurd same.symm (shift_ne_digits decimal)
  | @shift left digits value distance denoted decimal ih =>
    generalize same : left ++ " << ".toList ++ digits = text at h'
    cases h' with
    | numeral decimal' => exact absurd same (shift_ne_digits decimal')
    | @shift left' digits' value' distance' denoted' decimal' =>
      obtain ⟨rfl, rfl⟩ := append_operator_inj rfl (notMem_blank_of_isNumeral decimal.1)
        (notMem_blank_of_isNumeral decimal'.1) same
      rw [ih denoted', ← decimal.1.digitsValue_eq, ← decimal'.1.digitsValue_eq]

/-- The value that an expression is meant to have. -/
def value : MemberExpression → Int
  | .numeral value => value
  | .bit position => 2 ^ position

theorem toList_text_numeral (value : Nat) :
    (numeral value).text.toList = Nat.toDigits 10 value := by
  show (toString (value : Int)).toList = _
  rw [show toString (value : Int) = String.ofList (Nat.toDigits 10 value) from rfl,
    String.toList_ofList]

theorem toList_text_bit (position : Nat) :
    (bit position).text.toList = ['1'] ++ " << ".toList ++ Nat.toDigits 10 position := by
  show ("1 << " ++ toString position).toList = _
  simp

/-- The text of an expression denotes its value, however large. -/
theorem denotes_text {expression : MemberExpression} (nonneg : 0 ≤ expression.value) :
    Denotes expression.text.toList expression.value := by
  cases expression with
  | numeral value =>
    obtain ⟨value, rfl⟩ := Int.eq_ofNat_of_zero_le nonneg
    rw [toList_text_numeral]
    exact .numeral (isDecimal_toDigits value)
  | bit position =>
    rw [toList_text_bit, value, ← Int.one_mul (2 ^ position)]
    exact .shift (.numeral (isDecimal_toDigits 1)) (isDecimal_toDigits position)

theorem denotes_text_iff {expression : MemberExpression} (nonneg : 0 ≤ expression.value)
    {value : Int} : Denotes expression.text.toList value ↔ value = expression.value :=
  ⟨fun denoted => denoted.unique (denotes_text nonneg), fun same => same ▸ denotes_text nonneg⟩

end MemberExpression

/-! ## Members that a declaration can give -/

namespace NativeType

/-- The members for variants or flags, each after its native name. The value of a flag is the bit
at the position of its field. -/
def namedMembers : NativeType → List (String × EnumMember)
  | .enum _ variants =>
    variants.map fun v => (v.name, ⟨Naming.upper v.name, v.value, .numeral v.value⟩)
  | .struct .packed fields =>
    fields.zipIdx.map fun (f, position) =>
      (f.name, ⟨Naming.upper f.name, 2 ^ position, .bit position⟩)
  | _ => []

def fixedMembers : NativeType → List EnumMember
  | .struct .packed _ => [⟨"NONE", 0, .numeral 0⟩]
  | _ => []

def allMembers (type : NativeType) : List EnumMember :=
  type.fixedMembers ++ type.namedMembers.map (·.2)

theorem map_fst_namedMembers {type : NativeType} (enumLike : type.isEnumLike = true) :
    type.namedMembers.map (·.1) = type.memberNames := by
  cases type with
  | enum tagBits variants => simp [namedMembers, memberNames]
  | struct layout fields =>
    cases layout with
    | packed =>
      simp only [namedMembers, memberNames, List.map_map]
      conv_rhs => rw [← List.zipIdx_map_fst 0 fields, List.map_map]
      rfl
    | cAbi | auto => cases enumLike
  | _ => cases enumLike

theorem value_expression {type : NativeType} :
    ∀ member ∈ type.allMembers, member.expression.value = member.value := by
  intro member hmember
  cases type with
  | enum tagBits variants =>
    simp only [allMembers, fixedMembers, namedMembers, List.nil_append, List.map_map,
      List.mem_map] at hmember
    obtain ⟨v, -, rfl⟩ := hmember
    rfl
  | struct layout fields =>
    cases layout with
    | packed =>
      simp only [allMembers, fixedMembers, namedMembers, List.map_map, List.mem_append,
        List.mem_singleton, List.mem_map] at hmember
      rcases hmember with rfl | ⟨f, -, rfl⟩ <;> rfl
    | cAbi | auto => cases hmember
  | _ => cases hmember

/-! ### Their values -/

/-- The variants of an enum that passes have distinct values, which fit its tag. -/
theorem values_of_enum {types : Registry} {d : Declaration} {tagBits : Int}
    {variants : List Variant} (enum : d.type = .enum tagBits variants)
    (passed : Check.declaration types d = .ok ()) :
    (d.type.allMembers.map (·.value)).Nodup ∧
      ∀ member ∈ d.type.allMembers, 0 ≤ member.value ∧ member.value < 2 ^ tagBits.toNat := by
  obtain ⟨-, -, -, variantsPassed⟩ := (Check.declaration_enum_eq_ok_iff enum).mp passed
  obtain ⟨each, -, distinct⟩ := Check.variants_eq_ok_iff.mp variantsPassed
  simp only [enum, allMembers, fixedMembers, namedMembers, List.nil_append, List.map_map,
    List.forall_mem_map]
  exact ⟨distinct, fun v hv => Check.fitsTag_iff.mp (each v hv).1⟩

theorem values_of_packed (fields : Fields) :
    (struct .packed fields).allMembers.map (·.value) =
      0 :: (List.range fields.length).map fun position => (2 : Int) ^ position := by
  rw [List.range_eq_range', ← List.zipIdx_map_snd 0 fields]
  simp only [allMembers, fixedMembers, namedMembers, List.map_append, List.map_cons, List.map_nil,
    List.map_map]
  rfl

/-- Distinct positions give distinct bits, and none is zero. -/
theorem nodup_values_of_packed (fields : Fields) :
    ((struct .packed fields).allMembers.map (·.value)).Nodup := by
  rw [values_of_packed, List.nodup_cons]
  constructor
  · simp
  · refine List.Nodup.map (fun position position' same => ?_) List.nodup_range
    exact Nat.pow_right_injective le_rfl (by exact_mod_cast same)

/-- If there are no more fields than bits, the flags are bits of the integer. -/
theorem values_of_packed_bounded {fields : Fields} {bits : Nat} (enough : fields.length ≤ bits) :
    ∀ member ∈ (struct .packed fields).allMembers, 0 ≤ member.value ∧ member.value < 2 ^ bits := by
  intro member hmember
  have listed := List.mem_map_of_mem (f := (·.value)) hmember
  rw [values_of_packed, List.mem_cons, List.mem_map] at listed
  rcases listed with zero | ⟨position, hposition, same⟩
  · rw [zero]
    exact ⟨le_rfl, Int.pow_pos (by decide)⟩
  · rw [← same]
    have below : position < bits := (List.mem_range.mp hposition).trans_le enough
    exact ⟨Int.pow_nonneg (by decide), pow_lt_pow_right₀ (by decide) below⟩

end NativeType

/-- Fields that have a bit each are no more than the bits of the integer at the boundary. -/
theorem Names.length_le_bits {names : Names} {fields : Fields} {width : CtypeWidth}
    {context : String}
    (positive : ∀ f ∈ fields, ∀ bits, names.types.HasWidth f.type bits → 1 ≤ bits)
    (represented : names.ctype (.struct .packed fields) context = .ok (.unsigned width)) :
    fields.length ≤ width.bits := by
  obtain ⟨total, measured, -⟩ := bind_eq_ok.mp represented
  obtain ⟨widths, haveWidths, -⟩ := Registry.packedFieldsWidth_eq_ok_iff.mp measured
  have atLeastOne : ∀ bits ∈ widths, 1 ≤ bits := haveWidths.forall_iff.mp positive
  have nonneg : ∀ bits ∈ widths, 0 ≤ bits := fun bits hbits =>
    Int.le_trans (by decide) (atLeastOne bits hbits)
  obtain ⟨width', same, total⟩ := names.ctype_packed_eq_ok haveWidths nonneg represented
  cases same
  rw [total, haveWidths.length_eq]
  exact EnumClass.length_le_sum atLeastOne

/-! ## Members of classes -/

namespace EnumClass

variable {d : Declaration} {name : String} {skip : List String} {class' : EnumClass}

/-- An enum or a packed struct has a class for every list of names to skip that it has. -/
theorem build_isOk_iff (enumLike : d.type.isEnumLike = true) :
    (∃ class', build d name skip = .ok class') ↔ ∀ a ∈ skip, a ∈ d.type.memberNames := by
  have unit (check : Except Fault Unit) : (∃ u, check = .ok u) ↔ check = .ok () :=
    ⟨fun ⟨_, passed⟩ => passed, fun passed => ⟨(), passed⟩⟩
  rw [← checkSkip_eq_ok_iff d.name, ← unit]
  cases htype : d.type with
  | enum tagBits variants => simp [build, htype, NativeType.memberNames]
  | struct layout fields =>
    cases layout with
    | packed => simp [build, htype, NativeType.memberNames]
    | cAbi | auto => simp [htype, NativeType.isEnumLike] at enumLike
  | _ => simp [htype, NativeType.isEnumLike] at enumLike

/-- A class has the members that the declaration can give it, without those that are skipped. -/
theorem members_of_build (built : build d name skip = .ok class') :
    class'.members = d.type.fixedMembers ++
      (d.type.namedMembers.filter (·.1 ∉ skip)).map (·.2) := by
  cases htype : d.type with
  | enum tagBits variants =>
    rw [build_of_enum htype built]
    simp only [NativeType.fixedMembers, NativeType.namedMembers, List.nil_append, List.filter_map,
      List.map_map]
    rfl
  | struct layout fields =>
    cases layout with
    | packed =>
      simp only [build, htype, bind_eq_ok, pure_eq_ok] at built
      obtain ⟨-, -, rfl⟩ := built
      simp only [NativeType.fixedMembers, NativeType.namedMembers, List.filter_map, List.map_map,
        List.singleton_append]
      refine congrArg _ (List.map_congr_left fun entry _ => ?_)
      simp [ofField]
    | cAbi | auto => simp [build, htype] at built
  | _ => simp [build, htype] at built

theorem sublist_allMembers (built : build d name skip = .ok class') :
    class'.members.Sublist d.type.allMembers := by
  rw [members_of_build built]
  exact (List.Sublist.refl _).append (List.filter_sublist.map _)

theorem mem_of_build (built : build d name skip = .ok class') {entry : String × EnumMember}
    (hentry : entry ∈ d.type.namedMembers) (kept : entry.1 ∉ skip) :
    entry.2 ∈ class'.members := by
  rw [members_of_build built]
  exact List.mem_append_right _ <| List.mem_map_of_mem <| List.mem_filter.mpr ⟨hentry, by simpa⟩

/-- The values of a class are distinct and fit an integer, and each is what the text of its
expression denotes. -/
structure Faithful (class' : EnumClass) (width : CtypeWidth) : Prop where
  distinct : (class'.members.map (·.value)).Nodup
  fits : ∀ member ∈ class'.members, 0 ≤ member.value ∧ member.value < 2 ^ width.bits.toNat
  denoted : ∀ member ∈ class'.members, ∀ value,
    MemberExpression.Denotes member.expression.text.toList value ↔ value = member.value

/-- The values of all members that a declaration can give fit the integer that it is at the
boundary. -/
theorem values_fit {names : Names} {width : CtypeWidth} {context : String}
    (passed : Check.declaration names.types d = .ok ())
    (positive : ∀ fields, d.type = .struct .packed fields →
      ∀ f ∈ fields, ∀ bits, names.types.HasWidth f.type bits → 1 ≤ bits)
    (represented : names.ctype d.type context = .ok (.unsigned width)) :
    (d.type.allMembers.map (·.value)).Nodup ∧
      ∀ member ∈ d.type.allMembers, 0 ≤ member.value ∧ member.value < 2 ^ width.bits.toNat := by
  -- The integer is as wide as the tag of an enum, and as all fields of a packed struct together.
  cases htype : d.type with
  | enum tagBits variants =>
    have same : width.bits = tagBits := by
      have noRef (name : String) : NativeType.enum tagBits variants ≠ .ref name := nofun
      rw [htype, Names.ctype_eq_unsigned_iff noRef] at represented
      exact Registry.hasWidth_enum_iff.mp represented
    rw [same, ← htype]
    exact NativeType.values_of_enum htype passed
  | struct layout fields =>
    cases layout with
    | packed =>
      rw [htype] at represented
      have enough := Names.length_le_bits (positive fields htype) represented
      exact ⟨NativeType.nodup_values_of_packed fields,
        NativeType.values_of_packed_bounded (by omega)⟩
    | cAbi | auto => exact ⟨List.nodup_nil, nofun⟩
  | _ => exact ⟨List.nodup_nil, nofun⟩

/-- If a declared enum, or a declared packed struct whose fields have a bit each, is an unsigned
integer at the boundary, then every class of it is faithful to that integer. There is a class for
every list of names to skip that are declared. It has the members of the other names in their order,
and what is skipped makes no difference to these: two classes agree on what neither of them
skips. -/
theorem member_values {declarations : List Declaration} {names : Names} {width : CtypeWidth}
    {context : String} (accepted : Registry.build declarations = .ok names.types)
    (declared : d ∈ declarations) (enumLike : d.type.isEnumLike = true)
    (positive : ∀ fields, d.type = .struct .packed fields →
      ∀ f ∈ fields, ∀ bits, names.types.HasWidth f.type bits → 1 ≤ bits)
    (represented : names.ctype d.type context = .ok (.unsigned width)) :
    (d.type.namedMembers.map (·.1)).Nodup ∧
    ∀ name skip,
      ((∃ class', build d name skip = .ok class') ↔ ∀ a ∈ skip, a ∈ d.type.memberNames) ∧
      ∀ class', build d name skip = .ok class' →
        class'.members = d.type.fixedMembers ++
          (d.type.namedMembers.filter (·.1 ∉ skip)).map (·.2) ∧
        class'.Faithful width ∧
        ∀ name' skip' other, build d name' skip' = .ok other →
          ∀ entry ∈ d.type.namedMembers, entry.1 ∉ skip → entry.1 ∉ skip' →
            entry.2 ∈ class'.members ∧ entry.2 ∈ other.members := by
  have passed := Registry.checked_of_build accepted declared
  obtain ⟨distinct, fits⟩ := values_fit passed positive represented
  refine ⟨?_, fun name skip => ⟨build_isOk_iff enumLike, fun class' built => ?_⟩⟩
  · rw [NativeType.map_fst_namedMembers enumLike]
    exact Check.nodup_memberNames passed
  have within := sublist_allMembers built
  refine ⟨members_of_build built, ⟨(within.map _).nodup distinct, ?_, ?_⟩, ?_⟩
  · exact fun member hmember => fits member (within.subset hmember)
  · intro member hmember value
    have same := NativeType.value_expression member (within.subset hmember)
    have nonneg := (fits member (within.subset hmember)).1
    rw [← same] at nonneg ⊢
    exact MemberExpression.denotes_text_iff nonneg
  · intro name' skip' other built' entry hentry kept kept'
    exact ⟨mem_of_build built hentry kept, mem_of_build built' hentry kept'⟩

/-- The packed struct of `modeTypes`. -/
def modeFlags : Declaration := ⟨"flags_t", .struct .packed modeFields⟩

theorem member_values_modeFlags : Registry.build modeTypes.declarations = .ok modeTypes ∧
    ∃ class', build modeFlags "Flags" ["padding"] = .ok class' ∧ class'.Faithful .w8 ∧
      class'.members.map (fun member => (member.name, member.value, member.expression.text)) =
        [("NONE", 0, "0"), ("LINKED", 1, "1 << 0"), ("MODE", 2, "1 << 1"),
          ("PENDING", 4, "1 << 2")] := by
  have positive : ∀ fields, modeFlags.type = .struct .packed fields →
      ∀ f ∈ fields, ∀ bits, modeTypes.HasWidth f.type bits → 1 ≤ bits := by
    intro fields same
    cases same
    exact modeFields_haveWidths.forall_iff.mpr (by decide)
  have declared : modeFlags ∈ modeTypes.declarations := List.mem_cons_of_mem _ List.mem_cons_self
  have values := (@member_values modeFlags modeTypes.declarations ⟨modeTypes, default, default⟩ .w8
    "flags_t" rfl declared rfl positive rfl).2 "Flags" ["padding"]
  exact ⟨rfl, _, rfl, (values.2 _ rfl).2.1, by decide⟩

end EnumClass
end NativeBindings
