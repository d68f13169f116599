import NativeBindings.Proofs.Cores
import NativeBindings.Proofs.Entries

/-!
# Value types

Which types have a type hint, which have a default, and which records there are. The core decides in
each case. Hints and defaults are found on walks of their own, and they disagree on purpose: a hint
asks for unsigned integers and for the class of an enum or a struct (`Names.CoreHint`), a default is
zero for any integer and any enum (`Names.CoreDefault`).

* `Names.coreHint_eq_ok_iff` and `coreDefault_eq_ok_iff`: the cores that have one.
* `Names.no_default_iff_of_hint`: of the cores that have a hint, a struct by value has no default.
* `Record.build_isOk_iff`: a record needs both, for every field that is exposed.
* `Names.value_types_from_core`: the same for all types that pass the check, and for the records of
  all structs that are declared.
-/
namespace NativeBindings

namespace Names

variable {names : Names} {r : Resolved} {context : String}

/-! ## Cores -/

/-- The type hint of a core. -/
inductive CoreHint (names : Names) : Resolved → TypeHint → Prop
  | bool {owner : Option String} : CoreHint names ⟨.bool, owner⟩ .bool
  | void {owner : Option String} : CoreHint names ⟨.void, owner⟩ .none
  | int {owner : Option String} (bits : Int) : CoreHint names ⟨.int bits false, owner⟩ .int
  | named {type : NativeType} {owner name : String} (nominal : type.isNominal = true)
      (mapped : names.lookupDomain owner = some name) :
      CoreHint names ⟨type, some owner⟩ (.named name)

/-- The default of a core. -/
inductive CoreDefault (names : Names) : Resolved → DefaultValue → Prop
  | bool {owner : Option String} : CoreDefault names ⟨.bool, owner⟩ .false
  | void {owner : Option String} : CoreDefault names ⟨.void, owner⟩ .none
  | int {owner : Option String} (bits : Int) (signed : Bool) :
      CoreDefault names ⟨.int bits signed, owner⟩ .zero
  | enum (owner : String) (tagBits : Int) (variants : List Variant) :
      CoreDefault names ⟨.enum tagBits variants, some owner⟩ .zero
  | packed {owner name : String} (fields : Fields)
      (mapped : names.lookupDomain owner = some name) :
      CoreDefault names ⟨.struct .packed fields, some owner⟩ (.noFlags name)

/-- The core of a field that can be shown in a record. -/
inductive CoreShown (names : Names) : Resolved → Prop
  | bool {owner : Option String} : CoreShown names ⟨.bool, owner⟩
  | void {owner : Option String} : CoreShown names ⟨.void, owner⟩
  | int {owner : Option String} (bits : Int) : CoreShown names ⟨.int bits false, owner⟩
  | enum {owner name : String} (tagBits : Int) (variants : List Variant)
      (mapped : names.lookupDomain owner = some name) :
      CoreShown names ⟨.enum tagBits variants, some owner⟩
  | packed {owner name : String} (fields : Fields)
      (mapped : names.lookupDomain owner = some name) :
      CoreShown names ⟨.struct .packed fields, some owner⟩

/-- A struct that is held by value and has a class in the domain table. -/
def IsNamedStruct (names : Names) (r : Resolved) : Prop :=
  ∃ layout fields owner name, r = ⟨.struct layout fields, some owner⟩ ∧ layout ≠ .packed ∧
    names.lookupDomain owner = some name

section Ends

variable (noRef : ∀ name, r.type ≠ .ref name)
  (noArray : ∀ element length, r.type ≠ .array element length)
include noRef noArray

theorem coreHint_eq_ok_iff {hint : TypeHint} :
    names.coreHint r context = .ok hint ↔ names.CoreHint r hint := by
  obtain ⟨type, owner⟩ := r
  cases nominal : type.isNominal with
  | true =>
    cases owner with
    | none =>
      constructor
      · intro h
        cases type with
        | enum | struct => cases h
        | _ => cases nominal
      · intro h
        cases h <;> cases nominal
    | some owner =>
      have required : names.coreHint ⟨type, some owner⟩ context =
          .named <$> names.requireDomain owner context := by rw [coreHint, nominal]
      rw [required, map_eq_ok]
      constructor
      · rintro ⟨name, found, rfl⟩
        exact .named nominal (requireDomain_eq_ok_iff.mp found)
      · intro h
        cases h with
        | named _ mapped => exact ⟨_, requireDomain_eq_ok_iff.mpr mapped, rfl⟩
        | _ => cases nominal
  | false =>
    have hinted : names.coreHint ⟨type, owner⟩ context = names.hint type context := by
      rw [coreHint, nominal]
    rw [hinted]
    constructor
    · intro h
      cases type with
      | bool => cases h; exact .bool
      | void => cases h; exact .void
      | int bits signed =>
        cases signed with
        | true => cases h
        | false => cases h; exact .int bits
      | ref name => exact absurd rfl (noRef name)
      | array element length => exact absurd rfl (noArray element length)
      | enum | struct => cases nominal
      | untyped | float | pointer => cases h
    · intro h
      cases h with
      | bool | void | int => rfl
      | named nominal' => rw [nominal] at nominal'; cases nominal'

theorem coreDefault_eq_ok_iff {value : DefaultValue} :
    names.coreDefault r context = .ok value ↔ names.CoreDefault r value := by
  obtain ⟨type, owner⟩ := r
  constructor
  · intro h
    cases type with
    | bool => cases h; exact .bool
    | void => cases h; exact .void
    | int bits signed => cases h; exact .int bits signed
    | enum tagBits variants =>
      cases owner with
      | none => cases h
      | some owner => cases h; exact .enum owner tagBits variants
    | struct layout fields =>
      cases owner with
      | none => cases layout <;> cases h
      | some owner =>
        cases layout with
        | packed =>
          obtain ⟨name, found, rfl⟩ := map_eq_ok.mp h
          exact .packed fields (requireDomain_eq_ok_iff.mp found)
        | cAbi | auto => cases h
    | ref name => exact absurd rfl (noRef name)
    | array element length => exact absurd rfl (noArray element length)
    | untyped | float | pointer => cases h
  · intro h
    cases h with
    | bool | void | int | enum => rfl
    | packed fields mapped => exact map_eq_ok.mpr ⟨_, requireDomain_eq_ok_iff.mpr mapped, rfl⟩

end Ends

/-- What has a hint and a default can be shown. -/
theorem coreShown_iff : names.CoreShown r ↔
    (∃ hint, names.CoreHint r hint) ∧ ∃ value, names.CoreDefault r value := by
  constructor
  · intro shown
    cases shown with
    | bool => exact ⟨⟨_, .bool⟩, _, .bool⟩
    | void => exact ⟨⟨_, .void⟩, _, .void⟩
    | int bits => exact ⟨⟨_, .int bits⟩, _, .int bits false⟩
    | enum tagBits variants mapped => exact ⟨⟨_, .named rfl mapped⟩, _, .enum _ tagBits variants⟩
    | packed fields mapped => exact ⟨⟨_, .named rfl mapped⟩, _, .packed fields mapped⟩
  · rintro ⟨⟨hint, hinted⟩, value, defaulted⟩
    cases defaulted with
    | bool => exact .bool
    | void => exact .void
    | int bits signed =>
      cases hinted with
      | int => exact .int bits
      | named nominal => cases nominal
    | enum owner tagBits variants =>
      cases hinted with
      | named _ mapped => exact .enum tagBits variants mapped
    | packed fields mapped => exact .packed fields mapped

/-- Of the cores that have a hint, a struct by value has no default. -/
theorem no_default_iff_of_hint {hint : TypeHint} (hinted : names.CoreHint r hint) :
    (∀ value, ¬ names.CoreDefault r value) ↔ names.IsNamedStruct r := by
  constructor
  · intro none
    cases hinted with
    | bool => exact absurd .bool (none .false)
    | void => exact absurd .void (none .none)
    | int bits => exact absurd (.int bits false) (none .zero)
    | @named type owner name nominal mapped =>
      cases type with
      | enum tagBits variants => exact absurd (.enum owner tagBits variants) (none .zero)
      | struct layout fields =>
        refine ⟨layout, fields, owner, name, rfl, ?_, mapped⟩
        rintro rfl
        exact none _ (.packed fields mapped)
      | _ => cases nominal
  · rintro ⟨layout, fields, owner, name, rfl, notPacked, -⟩ value defaulted
    cases defaulted
    exact notPacked rfl

end Names

/-! ## Records -/

/-- There is a record of a struct exactly if every exposed field has a hint and a default. -/
theorem Record.build_isOk_iff {names : Names} {d : Declaration} {fields : Fields} {name : String}
    (struct : d.type = .struct .cAbi fields) :
    (∃ record, build names d name = .ok record) ↔ ∀ f ∈ fields, f.reserved = false →
      (∃ hint, names.hint f.type s!"{d.name}.{f.name}" = .ok hint) ∧
        ∃ value, names.defaultValue f.type s!"{d.name}.{f.name}" = .ok value := by
  have each (f : Field NativeType) : (∃ shown, field names d.name f = .ok shown) ↔
      (∃ hint, names.hint f.type s!"{d.name}.{f.name}" = .ok hint) ∧
        ∃ value, names.defaultValue f.type s!"{d.name}.{f.name}" = .ok value := by
    simp only [field, bind_eq_ok, pure_eq_ok]
    constructor
    · rintro ⟨_, hint, hinted, value, defaulted, rfl⟩
      exact ⟨⟨hint, hinted⟩, value, defaulted⟩
    · rintro ⟨⟨hint, hinted⟩, value, defaulted⟩
      exact ⟨_, hint, hinted, value, defaulted, rfl⟩
  have exposed (f : Field NativeType) :
      f ∈ Fields.exposed fields ↔ f ∈ fields ∧ f.reserved = false := by simp [Fields.exposed]
  constructor
  · rintro ⟨record, built⟩ f hf shown
    obtain ⟨fields', struct', -, fieldwise⟩ := build_eq_ok_iff.mp built
    obtain rfl : fields = fields' := by simpa [struct] using struct'
    exact (each f).mp (isOk_of_mapM fieldwise ((exposed f).mpr ⟨hf, shown⟩))
  · intro h
    obtain ⟨shown, fieldwise⟩ : ∃ shown,
        (Fields.exposed fields).mapM (field names d.name) = .ok shown := mapM_isOk fun f hf => by
      obtain ⟨mem, shown⟩ := (exposed f).mp hf
      exact (each f).mpr (h f mem shown)
    exact ⟨⟨name, shown⟩, build_eq_ok_iff.mpr ⟨fields, struct, rfl, fieldwise⟩⟩

namespace Names

variable {names : Names} {type : NativeType} {lengths : List Int} {r : Resolved} {context : String}

/-! ## Types -/

section Walks

variable (sound : names.types.Sound) (core : names.types.HasCore type lengths r)
  (wellFormed : type.WellFormed names.types)
include sound core wellFormed

theorem hint_eq_ok_iff_core {hint : TypeHint} : names.hint type context = .ok hint ↔
    ∃ inner, names.CoreHint r inner ∧ hint = inArrays .array lengths inner :=
  (hint_walksToCore sound).eq_ok_iff sound core wellFormed
    fun _ _ => coreHint_eq_ok_iff core.not_ref core.not_array

theorem defaultValue_eq_ok_iff_core {value : DefaultValue} :
    names.defaultValue type context = .ok value ↔
      ∃ inner, names.CoreDefault r inner ∧ value = inArrays .repeated lengths inner :=
  (defaultValue_walksToCore sound).eq_ok_iff sound core wellFormed
    fun _ _ => coreDefault_eq_ok_iff core.not_ref core.not_array

theorem hint_isOk_iff_core : (∃ hint, names.hint type context = .ok hint) ↔
    ∃ inner, names.CoreHint r inner :=
  (hint_walksToCore sound).isOk_iff sound core wellFormed
    fun _ _ => coreHint_eq_ok_iff core.not_ref core.not_array

theorem defaultValue_isOk_iff_core : (∃ value, names.defaultValue type context = .ok value) ↔
    ∃ inner, names.CoreDefault r inner :=
  (defaultValue_walksToCore sound).isOk_iff sound core wellFormed
    fun _ _ => coreDefault_eq_ok_iff core.not_ref core.not_array

end Walks

/-- A type that passes the check has one core, inside arrays of certain lengths; if the core is an
enum or a struct, it is that of a declaration. The type has a hint exactly if the core has one, and
a default exactly if the core has one, in both cases that of the core inside arrays of the same
lengths. A hint is written with the lengths from the inside out. What has a hint has no default
exactly if the core is a struct by value. There is a record of a declared struct exactly if the core
of every exposed field has both. -/
theorem value_types_from_core {declarations : List Declaration}
    (accepted : Registry.build declarations = .ok names.types) :
    (∀ type place, Check.type names.types type place = .ok () → ∃ lengths r,
      (∀ lengths' r', names.types.HasCore type lengths' r' ↔ lengths' = lengths ∧ r' = r) ∧
      (r.type.isNominal = true → ∃ owner d, r.declaration = some owner ∧
        names.types.find? owner = some d ∧ d.type = r.type) ∧
      ∀ context,
        (∀ hint, names.hint type context = .ok hint ↔
          ∃ inner, names.CoreHint r inner ∧ hint = inArrays .array lengths inner) ∧
        (∀ inner : TypeHint, (inArrays .array lengths inner).text =
          inner.text ++
            String.join (lengths.reverse.map fun length => "[" ++ countText length ++ "]")) ∧
        (∀ value, names.defaultValue type context = .ok value ↔
          ∃ inner, names.CoreDefault r inner ∧ value = inArrays .repeated lengths inner) ∧
        ((∃ hint, names.hint type context = .ok hint) →
          ((∀ value, names.defaultValue type context ≠ .ok value) ↔ names.IsNamedStruct r))) ∧
    ∀ d ∈ declarations, ∀ fields, d.type = .struct .cAbi fields → ∀ name,
      ((∃ record, Record.build names d name = .ok record) ↔ ∀ f ∈ fields, f.reserved = false →
        ∃ lengths r, names.types.HasCore f.type lengths r ∧ names.CoreShown r) := by
  have sound := Registry.sound_of_build accepted
  constructor
  · intro type place valid
    have wellFormed := Check.type_eq_ok_iff.mp valid
    obtain ⟨lengths, r, core⟩ := sound.exists_core wellFormed
    refine ⟨lengths, r, fun lengths' r' => ⟨core.unique, fun ⟨sameLengths, same⟩ => ?_⟩,
      core.declared sound wellFormed, fun context => ⟨fun hint => ?_, fun inner => ?_,
        fun value => ?_, ?_⟩⟩
    · rwa [sameLengths, same]
    · exact hint_eq_ok_iff_core sound core wellFormed
    · exact text_inArrays TypeHint.text_array lengths inner
    · exact defaultValue_eq_ok_iff_core sound core wellFormed
    · intro hinted
      obtain ⟨inner, coreHint⟩ := (hint_isOk_iff_core sound core wellFormed).mp hinted
      rw [← no_default_iff_of_hint coreHint, ← not_exists, ← not_exists,
        defaultValue_isOk_iff_core sound core wellFormed]
  · intro d hd fields struct name
    obtain ⟨wellFormed, -⟩ := Registry.struct_of_build accepted hd struct
    rw [Record.build_isOk_iff struct]
    refine forall₃_congr fun f hf _ => ?_
    obtain ⟨lengths, r, core⟩ := sound.exists_core (wellFormed f hf)
    rw [hint_isOk_iff_core sound core (wellFormed f hf),
      defaultValue_isOk_iff_core sound core (wellFormed f hf), ← coreShown_iff]
    constructor
    · exact fun shown => ⟨lengths, r, core, shown⟩
    · rintro ⟨lengths', r', core', shown⟩
      obtain ⟨-, rfl⟩ := core.unique core'
      exact shown

/-- A struct whose reserved field alone has no default. -/
def bookcase : Declaration :=
  ⟨"case_t", .struct .cAbi [⟨"flags", .array (.ref "row_t") 2, false⟩,
    ⟨"reserved", .ref "shelf_t", true⟩]⟩

/-- Flags and a struct by value, in arrays that are declared on their own. -/
def shelves : Names where
  types.declarations := [⟨"flags_t", .struct .packed [⟨"linked", .bool, false⟩]⟩,
    ⟨"book_t", .struct .cAbi [⟨"pages", .int 32 false, false⟩]⟩,
    ⟨"shelf_t", .array (.ref "book_t") 3⟩, ⟨"row_t", .array (.ref "flags_t") 3⟩, bookcase]
  types.distinct := by decide
  protocol := default
  domain.kind := .domain
  domain.mappings := [⟨"flags_t", "Flags", none⟩, ⟨"book_t", "Book", none⟩]
  domain.distinct := by decide

theorem value_types_from_core_shelves :
    Registry.build shelves.types.declarations = .ok shelves.types ∧
    Check.type shelves.types (.array (.ref "row_t") 2) "flags" = .ok () ∧
    Check.type shelves.types (.ref "shelf_t") "shelf" = .ok () ∧
    (∃ hint, shelves.hint (.array (.ref "row_t") 2) "flags" = .ok hint ∧
      hint.text = "Flags[3][2]") ∧
    (∀ value, shelves.defaultValue (.ref "shelf_t") "shelf" ≠ .ok value) ∧
    ∃ record, Record.build shelves bookcase "Case" = .ok record := by
  obtain ⟨types, records⟩ :=
    @value_types_from_core shelves shelves.types.declarations rfl
  have row : shelves.types.find? "row_t" = some ⟨"row_t", .array (.ref "flags_t") 3⟩ := rfl
  have flags : shelves.types.find? "flags_t" =
    some ⟨"flags_t", .struct .packed [⟨"linked", .bool, false⟩]⟩ := rfl
  have shelf : shelves.types.find? "shelf_t" = some ⟨"shelf_t", .array (.ref "book_t") 3⟩ := rfl
  have book : shelves.types.find? "book_t" =
    some ⟨"book_t", .struct .cAbi [⟨"pages", .int 32 false, false⟩]⟩ := rfl
  have core : shelves.types.HasCore (.array (.ref "row_t") 2) [2, 3] _ :=
    .array (.here nofun) <| .array (.ref row (.here nofun)) <|
      .core (.ref flags (.here nofun)) nofun
  have core' : shelves.types.HasCore (.ref "shelf_t") [3] _ :=
    .array (.ref shelf (.here nofun)) <| .core (.ref book (.here nofun)) nofun
  refine ⟨rfl, rfl, rfl, ?_, ?_, ?_⟩
  · obtain ⟨lengths, r, unique, -, each⟩ := types (.array (.ref "row_t") 2) "flags" rfl
    obtain ⟨rfl, rfl⟩ := (unique _ _).mp core
    obtain ⟨hinted, written, -⟩ := each "flags"
    refine ⟨_, (hinted _).mpr ⟨.named "Flags", .named rfl rfl, rfl⟩, ?_⟩
    rw [written]
    decide
  · obtain ⟨lengths, r, unique, -, each⟩ := types (.ref "shelf_t") "shelf" rfl
    obtain ⟨rfl, rfl⟩ := (unique _ _).mp core'
    obtain ⟨hinted, -, -, noDefault⟩ := each "shelf"
    refine (noDefault ⟨_, (hinted _).mpr ⟨.named "Book", .named rfl rfl, rfl⟩⟩).mpr ?_
    exact ⟨.cAbi, _, "book_t", "Book", rfl, nofun, rfl⟩
  · refine (records bookcase (by simp [shelves]) _ rfl "Case").mpr fun f hf shown => ?_
    simp only [List.mem_cons, List.not_mem_nil, or_false] at hf
    rcases hf with rfl | rfl
    · exact ⟨_, _, core, .packed _ rfl⟩
    · cases shown

end Names
end NativeBindings
