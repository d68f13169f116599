import NativeBindings.Proofs.Cores
import NativeBindings.Proofs.WideFields
import NativeBindings.Proofs.WrittenTypes

/-!
# Represented types

Which types have a representation, and which one. The core decides (`Names.CoreCtype`): truth
values, the absence of a value, what is as wide as one of the five unsigned integers, and pointers
to nothing in particular or to a declaration with a generated name. The arrays around the core,
wherever they are declared, become the factors of a product.

* `Ctype.Denotes` reads a product from the left, and `Denotes.unique`: in one way only.
* `Names.ctype_eq_ok_iff_core` and `ctype_error_of_core`: what cores are represented by, and which
  fault there is where they are not.
* `Names.representation_from_core`: the same for all types that pass the check.
-/
namespace NativeBindings

open Text

/-! ## Reading products -/

namespace Ctype

def isArray : Ctype → Bool
  | array _ _ => true
  | _ => false

/-- What a product denotes. It associates to the left, so the last factor is the length of the
outermost array. -/
inductive Denotes : List Char → Ctype → Prop
  | factor {type : Ctype} (atom : type.isArray = false) : Denotes type.text.toList type
  | product {left digits : List Char} {element : Ctype} {length : Nat}
      (denoted : Denotes left element) (numeral : IsNumeral digits length) :
      Denotes (left ++ " * ".toList ++ digits) (.array element length)

/-- The representations whose text is fixed. -/
def fixed : List Ctype :=
  [none, bool, unsigned .w8, unsigned .w16, unsigned .w32, unsigned .w64, unsigned .w128,
    untypedPointer]

theorem mem_fixed_or_pointer {type : Ctype} (atom : type.isArray = false) :
    type ∈ fixed ∨ ∃ name, type = pointer name := by
  cases type with
  | unsigned width => cases width <;> simp [fixed]
  | pointer name => exact .inr ⟨name, rfl⟩
  | array element length => cases atom
  | none | bool | untypedPointer => exact .inl (by simp [fixed])

theorem toList_text_pointer (name : String) : (pointer name).text.toList =
    ("ctypes.POINTER(".toList ++ "C".toList) ++ name.toList ++ ")".toList := by
  simp only [text_pointer, Naming.structureClass, String.toList_append, List.append_assoc]

theorem getLast?_toList_text_pointer (name : String) :
    (pointer name).text.toList.getLast? = some ')' := by
  rw [toList_text_pointer, show ")".toList = [')'] from rfl, List.getLast?_concat]

theorem not_blank_of_fixed : ∀ type ∈ fixed, ' ' ∉ type.text.toList := by decide

theorem getLast?_of_fixed : ∀ type ∈ fixed, type.text.toList.getLast? ≠ some ')' := by decide

theorem text_injOn_fixed :
    ∀ type ∈ fixed, ∀ type' ∈ fixed, type.text = type'.text → type = type' := by decide

/-- Representations that are no arrays have different texts. -/
theorem eq_of_text_eq {type type' : Ctype} (atom : type.isArray = false)
    (atom' : type'.isArray = false) (same : type.text = type'.text) : type = type' := by
  rcases mem_fixed_or_pointer atom with isFixed | ⟨name, rfl⟩ <;>
    rcases mem_fixed_or_pointer atom' with isFixed' | ⟨name', rfl⟩
  · exact text_injOn_fixed type isFixed type' isFixed' same
  · exact absurd (same ▸ getLast?_toList_text_pointer name') (getLast?_of_fixed type isFixed)
  · exact absurd (same ▸ getLast?_toList_text_pointer name) (getLast?_of_fixed type' isFixed')
  · have letters := congrArg String.toList same
    rw [toList_text_pointer, toList_text_pointer, List.append_left_inj, List.append_right_inj]
      at letters
    rw [String.toList_inj.mp letters]

/-! ### One reading -/

/-- A product is no factor: it has a blank, and does not end in a parenthesis. -/
theorem product_ne_factor {left digits : List Char} {length : Nat} {type : Ctype}
    (numeral : IsNumeral digits length) (atom : type.isArray = false) :
    left ++ " * ".toList ++ digits ≠ type.text.toList := by
  intro same
  rcases mem_fixed_or_pointer atom with isFixed | ⟨name, rfl⟩
  · exact not_blank_of_fixed type isFixed (by simp [← same])
  · have last := getLast?_toList_text_pointer name
    rw [← same, List.getLast?_append_of_ne_nil _ numeral.1] at last
    exact absurd (numeral.2.1 _ (List.mem_of_getLast? last)) (by decide)

namespace Denotes

/-- No text denotes two representations. -/
theorem unique {text : List Char} {type type' : Ctype} (h : Denotes text type)
    (h' : Denotes text type') : type = type' := by
  -- On the derivation: the last blank separates the count of the outermost array from the rest.
  induction h generalizing type' with
  | @factor type atom =>
    generalize same : type.text.toList = text at h'
    cases h' with
    | factor atom' => exact eq_of_text_eq atom atom' (String.toList_inj.mp same)
    | product _ numeral => exact absurd same.symm (product_ne_factor numeral atom)
  | @product left digits element length denoted numeral ih =>
    generalize same : left ++ " * ".toList ++ digits = text at h'
    cases h' with
    | factor atom' => exact absurd same (product_ne_factor numeral atom')
    | @product left' digits' element' length' denoted' numeral' =>
      obtain ⟨rfl, rfl⟩ := append_operator_inj rfl (notMem_blank_of_isNumeral numeral)
        (notMem_blank_of_isNumeral numeral') same
      rw [ih denoted', ← numeral.digitsValue_eq, ← numeral'.digitsValue_eq]

/-- A count is a factor. -/
theorem array {element : Ctype} {length : Int} (denoted : Denotes element.text.toList element)
    (positive : Check.isPositiveCount length = true) :
    Denotes (Ctype.array element length).text.toList (.array element length) := by
  obtain ⟨lower, upper⟩ := Check.isPositiveCount_iff.mp positive
  have largest : Binary64.maxSafe = 2 ^ 53 - 1 := rfl
  lift length to Nat using by omega
  have written : (Ctype.array element length).text.toList =
      element.text.toList ++ " * ".toList ++ Nat.toDigits 10 length := by
    rw [text_array, String.toList_append, String.toList_append, toList_countText (by omega)]
  rw [written]
  exact .product denoted (isNumeral_toDigits length)

/-- The text of a representation denotes it. -/
theorem inArrays {core : Ctype} (atom : core.isArray = false) {lengths : List Int}
    (positive : ∀ length ∈ lengths, Check.isPositiveCount length = true) :
    Denotes (NativeBindings.inArrays .array lengths core).text.toList
      (NativeBindings.inArrays .array lengths core) := by
  induction lengths with
  | nil => exact .factor atom
  | cons length rest ih =>
    obtain ⟨first, others⟩ := List.forall_mem_cons.mp positive
    exact (ih others).array first

end Denotes

end Ctype

/-! ## Representations of cores -/

namespace Names

variable {names : Names} {type : NativeType} {ctype : Ctype} {context : String}

/-- What a core is represented by. -/
inductive CoreCtype (names : Names) : NativeType → Ctype → Prop
  | bool : CoreCtype names .bool .bool
  | void : CoreCtype names .void .none
  | int (width : CtypeWidth) : CoreCtype names (.int width.bits false) (.unsigned width)
  | enum (width : CtypeWidth) (variants : List Variant) :
      CoreCtype names (.enum width.bits variants) (.unsigned width)
  | packed {fields : Fields} {width : CtypeWidth} {place : String}
      (measured : names.types.packedFieldsWidth fields place = .ok width.bits) :
      CoreCtype names (.struct .packed fields) (.unsigned width)
  | untyped (nullable : Bool) : CoreCtype names (.pointer .untyped nullable) .untypedPointer
  | pointer {target name : String} (nullable : Bool) (mapped : names.lookup target = some name) :
      CoreCtype names (.pointer (.ref target) nullable) (.pointer name)

/-- A pointer to a declaration without a generated name. -/
def PointsUnmapped (names : Names) (type : NativeType) (target : String) : Prop :=
  (∃ nullable, type = .pointer (.ref target) nullable) ∧ names.lookup target = none

theorem CoreCtype.isArray (h : names.CoreCtype type ctype) : ctype.isArray = false := by
  cases h <;> rfl

theorem pointerCtype_eq_ok_iff {pointee : NativeType} (nullable : Bool) :
    names.pointerCtype pointee context = .ok ctype ↔
      names.CoreCtype (.pointer pointee nullable) ctype := by
  constructor
  · intro h
    unfold pointerCtype at h
    split at h
    · cases h
      exact .untyped nullable
    · obtain ⟨name, required, rfl⟩ := map_eq_ok.mp h
      exact .pointer nullable (require_eq_ok_iff.mp required)
    · cases h
  · rintro (_ | _ | _ | _ | _ | _ | ⟨-, mapped⟩)
    · rfl
    · exact map_eq_ok.mpr ⟨_, require_eq_ok_iff.mpr mapped, rfl⟩

/-- What is neither an array nor a reference has the representation of a core. -/
theorem ctype_eq_ok_iff_core (noRef : ∀ name, type ≠ .ref name)
    (noArray : ∀ element length, type ≠ .array element length) :
    names.ctype type context = .ok ctype ↔ names.CoreCtype type ctype := by
  cases type with
  | bool => exact ⟨fun h => by cases h; exact .bool, fun h => by cases h; rfl⟩
  | void => exact ⟨fun h => by cases h; exact .void, fun h => by cases h; rfl⟩
  | int bits signed =>
    constructor
    · intro h
      cases signed with
      | true => cases h
      | false =>
        obtain ⟨width, rfl, rfl⟩ := ofBits_eq_ok h
        exact .int width
    · intro h
      cases h
      exact ofBits_eq_unsigned_iff.mpr rfl
  | enum tagBits variants =>
    constructor
    · intro h
      obtain ⟨width, rfl, rfl⟩ := ofBits_eq_ok h
      exact .enum width variants
    · intro h
      cases h
      exact ofBits_eq_unsigned_iff.mpr rfl
  | struct layout fields =>
    cases layout with
    | packed =>
      constructor
      · intro h
        obtain ⟨total, measured, lowered⟩ := bind_eq_ok.mp h
        obtain ⟨width, rfl, rfl⟩ := ofBits_eq_ok lowered
        exact .packed measured
      · intro h
        cases h with
        | packed measured => exact (ctype_eq_unsigned_iff noRef).mpr ⟨_, measured⟩
    | cAbi | auto => exact ⟨nofun, nofun⟩
  | pointer pointee nullable => exact pointerCtype_eq_ok_iff nullable
  | array element length => exact absurd rfl (noArray element length)
  | ref name => exact absurd rfl (noRef name)
  | untyped | float => exact ⟨nofun, nofun⟩

/-! ## Faults of cores -/

theorem require_eq_error_iff {type : String} {fault : Fault} :
    names.require type context = .error fault ↔
      names.lookup type = none ∧ fault = .unmapped type context := by
  unfold require
  cases names.lookup type <;> simp [eq_comm]

theorem pointerCtype_eq_error {pointee : NativeType} {fault : Fault}
    (h : names.pointerCtype pointee context = .error fault) :
    (∃ target, pointee = .ref target ∧ names.lookup target = none ∧
      fault = .unmapped target context) ∨
    fault.category = .lowering ∧ ∀ target, pointee ≠ .ref target := by
  unfold pointerCtype at h
  split at h
  · cases h
  · rename_i target
    exact .inl ⟨target, rfl, require_eq_error_iff.mp (map_eq_error.mp h)⟩
  · rename_i noRef
    cases h
    exact .inr ⟨rfl, noRef⟩

/-- A core that is no pointer has a representation, or none at all. -/
theorem ctype_onlyLowering_of_core (noRef : ∀ name, type ≠ .ref name)
    (noArray : ∀ element length, type ≠ .array element length)
    (noPointer : ∀ pointee nullable, type ≠ .pointer pointee nullable)
    (width : ∀ fields, type = .struct .packed fields →
      OnlyLowering (names.types.packedFieldsWidth fields context)) :
    OnlyLowering (names.ctype type context) := by
  cases type with
  | bool | void => exact .ok _
  | int bits signed =>
    cases signed with
    | true => exact .error rfl
    | false => exact ofBits_onlyLowering bits context
  | enum tagBits variants => exact ofBits_onlyLowering tagBits context
  | struct layout fields =>
    cases layout with
    | packed => exact .bind (width fields rfl) fun total _ => ofBits_onlyLowering total context
    | cAbi | auto => exact .error rfl
  | untyped | float => exact .error rfl
  | pointer pointee nullable => exact absurd rfl (noPointer pointee nullable)
  | array element length => exact absurd rfl (noArray element length)
  | ref name => exact absurd rfl (noRef name)

/-- The fault of a core is that it points to a declaration without a generated name, or that it has
no representation. -/
theorem ctype_error_of_core {fault : Fault} (noRef : ∀ name, type ≠ .ref name)
    (noArray : ∀ element length, type ≠ .array element length)
    (width : ∀ fields, type = .struct .packed fields →
      OnlyLowering (names.types.packedFieldsWidth fields context))
    (h : names.ctype type context = .error fault) :
    (∃ target, names.PointsUnmapped type target ∧ fault = .unmapped target context) ∨
      fault.category = .lowering ∧ ∀ target, ¬ names.PointsUnmapped type target := by
  by_cases pointer : ∃ pointee nullable, type = .pointer pointee nullable
  · obtain ⟨pointee, nullable, rfl⟩ := pointer
    rcases pointerCtype_eq_error h with ⟨target, rfl, unmapped, rfl⟩ | ⟨lowering, other⟩
    · exact .inl ⟨target, ⟨⟨nullable, rfl⟩, unmapped⟩, rfl⟩
    · right
      refine ⟨lowering, ?_⟩
      rintro target ⟨⟨nullable', same⟩, -⟩
      cases same
      exact other target rfl
  · right
    have noPointer : ∀ pointee nullable, type ≠ .pointer pointee nullable :=
      fun pointee nullable same => pointer ⟨pointee, nullable, same⟩
    refine ⟨ctype_onlyLowering_of_core noRef noArray noPointer width fault h, ?_⟩
    rintro target ⟨⟨nullable, same⟩, -⟩
    exact noPointer _ nullable same

/-! ## Representations of types -/

/-- A type is represented exactly if its core is, wherever it stands. -/
theorem ctype_eq_ok_iff_of_hasCore (sound : names.types.Sound) {lengths : List Int} {r : Resolved}
    (core : names.types.HasCore type lengths r) (wellFormed : type.WellFormed names.types) :
    names.ctype type context = .ok ctype ↔
      ∃ inner, names.CoreCtype r.type inner ∧ ctype = inArrays .array lengths inner :=
  (ctype_walksToCore sound).eq_ok_iff sound core wellFormed
    fun _ _ => ctype_eq_ok_iff_core core.not_ref core.not_array

/-- Where a type stands makes no difference to its representation. -/
theorem ctype_eq_ok_of_context (sound : names.types.Sound)
    (wellFormed : type.WellFormed names.types) (context' : String)
    (h : names.ctype type context = .ok ctype) : names.ctype type context' = .ok ctype := by
  obtain ⟨lengths, r, core⟩ := sound.exists_core wellFormed
  exact (ctype_eq_ok_iff_of_hasCore sound core wellFormed).mpr
    ((ctype_eq_ok_iff_of_hasCore sound core wellFormed).mp h)

/-- A type that passes the check has one core, inside arrays of certain lengths. It is represented
exactly if the core is, by the representation of the core inside arrays of the same lengths in the
same order. Written as a product, the lengths stand from the inside out, and the product denotes the
representation and nothing else. Otherwise the core points to a declaration without a generated
name, which is the fault, or there is no representation. -/
theorem representation_from_core {declarations : List Declaration} {place : String}
    (accepted : Registry.build declarations = .ok names.types)
    (valid : Check.type names.types type place = .ok ()) : ∃ lengths r,
      (∀ lengths' r', names.types.HasCore type lengths' r' ↔ lengths' = lengths ∧ r' = r) ∧
      ∀ context,
        (∀ ctype, names.ctype type context = .ok ctype ↔
          ∃ core, names.CoreCtype r.type core ∧ ctype = inArrays .array lengths core) ∧
        (∀ core, names.CoreCtype r.type core →
          (inArrays .array lengths core).text =
            core.text ++ String.join (lengths.reverse.map (" * " ++ countText ·)) ∧
          ∀ ctype, Ctype.Denotes (inArrays .array lengths core).text.toList ctype ↔
            ctype = inArrays .array lengths core) ∧
        ∀ fault, names.ctype type context = .error fault →
          (fault.category = .mapping ∧ ∃ target place', names.PointsUnmapped r.type target ∧
            fault = .unmapped target place') ∨
          (fault.category = .lowering ∧ ∀ target, ¬ names.PointsUnmapped r.type target) := by
  have sound := Registry.sound_of_build accepted
  have wellFormed := Check.type_eq_ok_iff.mp valid
  obtain ⟨lengths, r, core⟩ := sound.exists_core wellFormed
  refine ⟨lengths, r, fun lengths' r' => ⟨core.unique, fun ⟨sameLengths, same⟩ => ?_⟩,
    fun context => ⟨fun ctype => ?_, fun inner represented => ⟨?_, fun ctype => ?_⟩,
      fun fault failed => ?_⟩⟩
  · rwa [sameLengths, same]
  · exact ctype_eq_ok_iff_of_hasCore sound core wellFormed
  · exact text_inArrays (fun element length => String.append_assoc) lengths inner
  · have denoted := Ctype.Denotes.inArrays represented.isArray
      (core.lengths_positive sound wellFormed)
    exact ⟨fun other => other.unique denoted, fun same => same ▸ denoted⟩
  · -- The fault is that of the core: the arrays around it add none.
    obtain ⟨context', same⟩ :=
      (ctype_walksToCore sound).eq_inArrays sound core wellFormed context
    have inside := map_eq_error.mp (same ▸ failed)
    have width : ∀ fields, r.type = .struct .packed fields →
        OnlyLowering (names.types.packedFieldsWidth fields context') := fun fields struct => by
      obtain ⟨_, d, -, found, isType⟩ := core.declared sound wellFormed (by rw [struct]; rfl)
      exact sound.packedFieldsWidth_onlyLowering_of_find? found (isType.trans struct) context'
    rcases ctype_error_of_core core.not_ref core.not_array width inside with
      ⟨target, points, rfl⟩ | ⟨lowering, other⟩
    · exact .inl ⟨rfl, target, context', points, rfl⟩
    · exact .inr ⟨lowering, other⟩

/-- Arrays that are declared on their own, of arrays that are too. -/
def tables : Names where
  types.declarations := [⟨"kind_t", .enum 16 [⟨"plain", 0⟩]⟩, ⟨"row_t", .array (.ref "kind_t") 3⟩,
    ⟨"table_t", .array (.ref "row_t") 2⟩]
  types.distinct := by decide
  protocol := default
  domain := default

theorem representation_from_core_tables :
    Registry.build tables.types.declarations = .ok tables.types ∧
    Check.type tables.types (.array (.ref "table_t") 4) "tables" = .ok () ∧
    ∃ made, tables.ctype (.array (.ref "table_t") 4) "tables" = .ok made ∧
      made = .array (.array (.array (.unsigned .w16) 3) 2) 4 ∧
      made.text = "ctypes.c_uint16 * 3 * 2 * 4" := by
  refine ⟨rfl, rfl, ?_⟩
  obtain ⟨lengths, r, core, each⟩ :=
    @representation_from_core tables (.array (.ref "table_t") 4) tables.types.declarations
      "tables" rfl rfl
  have table : tables.types.find? "table_t" = some ⟨"table_t", .array (.ref "row_t") 2⟩ := rfl
  have row : tables.types.find? "row_t" = some ⟨"row_t", .array (.ref "kind_t") 3⟩ := rfl
  have kind : tables.types.find? "kind_t" = some ⟨"kind_t", .enum 16 [⟨"plain", 0⟩]⟩ := rfl
  obtain ⟨rfl, rfl⟩ := (core _ _).mp <| .array (.here nofun) <| .array (.ref table (.here nofun)) <|
    .array (.ref row (.here nofun)) <| .core (.ref kind (.here nofun)) nofun
  obtain ⟨represented, written, -⟩ := each "tables"
  have inner : tables.CoreCtype (.enum 16 [⟨"plain", 0⟩]) (.unsigned .w16) := .enum .w16 _
  refine ⟨_, (represented _).mpr ⟨_, inner, rfl⟩, rfl, ?_⟩
  rw [(written _ inner).1]
  decide

end Names
end NativeBindings
