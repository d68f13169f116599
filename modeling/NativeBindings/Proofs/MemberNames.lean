import NativeBindings.Proofs.Entries
import Mathlib.Data.List.Nodup

/-!
# Names of members

A class has a member for every variant or flag that is not left out, under the upper case of its
native name, and a class of flags begins with the member `NONE`. Native names are distinct as they
are written (`Check.variants_eq_ok_iff` for those of an enum); their upper cases need not be.

* `Naming.upper_eq_upper_iff`: two names have the same upper case exactly if they differ in nothing
  but the case of ASCII letters.
* `EnumClass.names_of_build`: the names of the members of a class.
* `EnumClass.member_names_distinct_iff`: they are distinct exactly if no two native names differ in
  nothing but case, and no flag is called `none` in some case.
-/
namespace NativeBindings

/-! ## Upper case -/

namespace Naming

/-- The second character is a small ASCII letter, and the first its capital. -/
def IsCapitalOf (capital small : Char) : Prop :=
  'a' ≤ small ∧ small ≤ 'z' ∧ capital.toNat + 32 = small.toNat

def SameLetter (c d : Char) : Prop := c = d ∨ IsCapitalOf c d ∨ IsCapitalOf d c

/-- Names that differ in nothing but the case of ASCII letters. -/
def SameButCase (name name' : String) : Prop :=
  List.Forall₂ SameLetter name.toList name'.toList

theorem toNat_toUpper (c : Char) :
    c.toUpper.toNat = if 97 ≤ c.toNat ∧ c.toNat ≤ 122 then c.toNat - 32 else c.toNat := by
  unfold Char.toUpper
  by_cases small : 'a'.val ≤ c.val ∧ c.val ≤ 'z'.val
  · have range : 97 ≤ c.toNat ∧ c.toNat ≤ 122 := small
    rw [dif_pos small, if_pos range]
    show (c.val + ('A'.val - 'a'.val)).toNat = c.val.toNat - 32
    have lower : 97 ≤ c.val.toNat := range.1
    have upper : c.val.toNat ≤ 122 := range.2
    rw [UInt32.toNat_add, show ('A'.val - 'a'.val).toNat = 2 ^ 32 - 32 from rfl]
    omega
  · have range : ¬ (97 ≤ c.toNat ∧ c.toNat ≤ 122) := small
    rw [dif_neg small, if_neg range]

theorem toUpper_eq_toUpper_iff {c d : Char} : c.toUpper = d.toUpper ↔ SameLetter c d := by
  have bounds (e : Char) : 'a' ≤ e ∧ e ≤ 'z' ↔ 97 ≤ e.toNat ∧ e.toNat ≤ 122 := Iff.rfl
  simp only [SameLetter, IsCapitalOf, ← and_assoc, bounds]
  rw [← Char.toNat_inj, ← Char.toNat_inj, toNat_toUpper, toNat_toUpper]
  split_ifs <;> omega

theorem upper_eq_upper_iff {name name' : String} :
    upper name = upper name' ↔ SameButCase name name' := by
  have each : List.Forall₂ (fun c d => Char.toUpper c = Char.toUpper d) name.toList name'.toList ↔
      name.toList.map Char.toUpper = name'.toList.map Char.toUpper := by
    rw [← List.forall₂_eq_eq_eq, List.forall₂_map_left_iff, List.forall₂_map_right_iff]
  rw [upper, upper, String.ofList_inj, ← each, SameButCase]
  simp only [toUpper_eq_toUpper_iff]

end Naming

/-! ## Members -/

/-- The names that a declaration gives to its variants or fields. -/
def NativeType.memberNames : NativeType → List String
  | .enum _ variants => variants.map (·.name)
  | .struct _ fields => fields.map (·.name)
  | _ => []

theorem Check.nodup_memberNames {types : Registry} {d : Declaration}
    (passed : declaration types d = .ok ()) : d.type.memberNames.Nodup := by
  cases htype : d.type with
  | enum tagBits variants =>
    obtain ⟨-, -, -, variantsPassed⟩ := (declaration_enum_eq_ok_iff htype).mp passed
    exact (variants_eq_ok_iff.mp variantsPassed).2.1
  | struct layout fields => exact ((declaration_eq_ok_iff_of_struct htype).mp passed).2
  | _ => exact List.nodup_nil

namespace EnumClass

def exposedNames (d : Declaration) (skip : List String) : List String :=
  d.type.memberNames.filter (· ∉ skip)

/-- The names that a class of a base has before those of its variants or flags. -/
def fixedNames : EnumBase → List String
  | .integers => []
  | .flags => ["NONE"]

theorem nodup_fixedNames (base : EnumBase) : (fixedNames base).Nodup := by
  cases base <;> decide

/-- The upper cases of names are none of the fixed ones unless a flag is called `none`. -/
theorem disjoint_fixedNames_iff {base : EnumBase} {names : List String} :
    (fixedNames base).Disjoint (names.map Naming.upper) ↔
      (base = .flags → ∀ a ∈ names, ¬ Naming.SameButCase "none" a) := by
  have none : "NONE" = Naming.upper "none" := rfl
  cases base with
  | integers => simp [fixedNames]
  | flags =>
    rw [fixedNames, List.singleton_disjoint, none]
    simp [← Naming.upper_eq_upper_iff, eq_comm]

variable {d : Declaration} {name : String} {skip : List String} {class' : EnumClass}

/-- The members of a class are named by the upper cases of the native names, in order. -/
theorem names_of_build (built : build d name skip = .ok class') :
    class'.members.map (·.name) =
      fixedNames class'.base ++ (exposedNames d skip).map Naming.upper := by
  cases htype : d.type with
  | enum tagBits variants =>
    have members := build_of_enum htype built
    rw [members, exposedNames, htype]
    simp only [fixedNames, NativeType.memberNames, List.nil_append, List.filter_map, List.map_map]
    rfl
  | struct layout fields =>
    cases layout with
    | packed =>
      simp only [build, htype, bind_eq_ok, pure_eq_ok] at built
      obtain ⟨-, -, rfl⟩ := built
      have kept : (fields.zipIdx.filter fun entry => entry.1.name ∉ skip).map Prod.fst =
          fields.filter (·.name ∉ skip) := by
        rw [← List.zipIdx_map_fst 0 fields, List.filter_map, List.zipIdx_map_fst]
        rfl
      rw [exposedNames, htype, NativeType.memberNames, List.filter_map, List.map_map]
      show noFlags.name :: _ = "NONE" :: (fields.filter (·.name ∉ skip)).map _
      rw [← kept, List.map_map, List.map_map]
      rfl
    | cAbi | auto => simp [build, htype] at built
  | _ => simp [build, htype] at built

/-- A class has a member twice under one name exactly if two native names that are not left out
differ in nothing but case, or a flag is called `none` in some case. Otherwise every native name
that is not left out has a member of its own. -/
theorem member_names_distinct_iff {declarations : List Declaration} {types : Registry}
    (accepted : Registry.build declarations = .ok types) (declared : d ∈ declarations)
    (built : build d name skip = .ok class') :
    ((class'.members.map (·.name)).Nodup ↔
      (∀ a ∈ exposedNames d skip, ∀ b ∈ exposedNames d skip, Naming.SameButCase a b → a = b) ∧
      (class'.base = .flags → ∀ a ∈ exposedNames d skip, ¬ Naming.SameButCase "none" a)) ∧
    ((class'.members.map (·.name)).Nodup → ∀ a ∈ exposedNames d skip,
      ∃! member, member ∈ class'.members ∧ member.name = Naming.upper a) := by
  have distinct : (exposedNames d skip).Nodup :=
    (Check.nodup_memberNames (Registry.checked_of_build accepted declared)).filter _
  have names := names_of_build built
  refine ⟨?_, fun apart a ha => ?_⟩
  · rw [names, List.nodup_append', List.nodup_map_iff_inj_on distinct, disjoint_fixedNames_iff]
    simp only [Naming.upper_eq_upper_iff]
    constructor
    · rintro ⟨-, inCase, fixed⟩
      exact ⟨inCase, fixed⟩
    · rintro ⟨inCase, fixed⟩
      exact ⟨nodup_fixedNames class'.base, inCase, fixed⟩
  · have named : Naming.upper a ∈ class'.members.map (·.name) := by
      rw [names]
      exact List.mem_append_right _ (List.mem_map_of_mem ha)
    obtain ⟨member, listed, sameName⟩ := List.mem_map.mp named
    refine ⟨member, ⟨listed, sameName⟩, ?_⟩
    rintro other ⟨listed', sameName'⟩
    exact List.inj_on_of_nodup_map apart listed' listed (sameName'.trans sameName.symm)

/-- An enum with two variants that differ in nothing but case. -/
def casedStatus : Declaration := ⟨"status_t", .enum 8 [⟨"ok", 0⟩, ⟨"Ok", 1⟩, ⟨"failed", 2⟩]⟩

/-- A packed struct with a field that has the name of the member for no flags. -/
def casedFlags : Declaration :=
  ⟨"flags_t", .struct .packed [⟨"none", .bool, false⟩, ⟨"linked", .bool, false⟩]⟩

def casedTypes : Registry where
  declarations := [casedStatus, casedFlags]
  distinct := by decide

theorem member_names_distinct_iff_cased : ∃ class',
    Registry.build casedTypes.declarations = .ok casedTypes ∧
      build casedStatus "Status" ["Ok"] = .ok class' ∧
      (class'.members.map (·.name)).Nodup ∧
      ∀ a ∈ ["ok", "failed"], ∃! member, member ∈ class'.members ∧
        member.name = Naming.upper a := by
  refine ⟨_, rfl, rfl, by decide, ?_⟩
  exact (@member_names_distinct_iff casedStatus "Status" ["Ok"] _ casedTypes.declarations casedTypes
    rfl List.mem_cons_self rfl).2 (by decide)

/-- Two variants that differ in case get one name, and a flag called `none` gets that of the member
for no flags. -/
theorem member_named_twice : ∃ status flags,
    Registry.build casedTypes.declarations = .ok casedTypes ∧
      build casedStatus "Status" [] = .ok status ∧
      status.members.map (·.name) = ["OK", "OK", "FAILED"] ∧
      build casedFlags "Flags" [] = .ok flags ∧
      flags.members.map (·.name) = ["NONE", "NONE", "LINKED"] ∧
      ¬ (status.members.map (·.name)).Nodup ∧ ¬ (flags.members.map (·.name)).Nodup := by
  refine ⟨_, _, rfl, rfl, rfl, rfl, rfl, ?_⟩
  decide

end EnumClass
end NativeBindings
