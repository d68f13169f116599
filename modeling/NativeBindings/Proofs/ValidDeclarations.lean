import NativeBindings.Proofs.SoundRegistry

/-!
# Valid declarations

The rules for declarations, said without the checks: of lists that are walked with what was seen
before, of an early end, and of the bit length that decides whether a discriminant fits.

* `NativeType.Occurs`: what stands in a type, at any depth, and whether it stands behind a pointer.
* `NativeType.ValidAmong` and `wellFormed_iff_validAmong`: the types that pass. Pointers make no
  difference to them.
* `NativeType.mem_valueRefs_iff_occurs`: the references that are collected. Pointers make all the
  difference to these.
* `Check.declaration_eq_ok_iff_validAmong`: one declaration.
* `Registry.declarations_pass_iff`: a list of declarations.

Powers of two are computed only up to a size (`Check.maxTagBits`), and enums with wider tags are
refused for that.
-/
namespace NativeBindings

/-! ## Types -/

namespace NativeType

/-- A type stands somewhere in a type, which it may be itself; the flag says whether it stands
behind a pointer. -/
inductive Occurs (part : NativeType) : (behind : Bool) → NativeType → Prop
  | whole : Occurs part false part
  | element {behind : Bool} {element : NativeType} (length : Int) :
      Occurs part behind element → Occurs part behind (.array element length)
  | pointee {behind : Bool} {pointee : NativeType} (nullable : Bool) :
      Occurs part behind pointee → Occurs part true (.pointer pointee nullable)
  | field {behind : Bool} {fields : Fields} {f : Field NativeType} (layout : Layout) :
      f ∈ fields → Occurs part behind f.type → Occurs part behind (.struct layout fields)

/-- References are to declarations of the list, wherever they stand; lengths are positive and safe;
and there is no enum or struct. -/
structure ValidAmong (type : NativeType) (declarations : List Declaration) : Prop where
  declared : ∀ behind name, Occurs (.ref name) behind type → ∃ d ∈ declarations, d.name = name
  positive : ∀ behind element length, Occurs (.array element length) behind type →
    1 ≤ length ∧ length ≤ 2 ^ 53 - 1
  structural : ∀ behind part, Occurs part behind type → part.isNominal = false

variable {type part : NativeType} {types : Registry} {declarations : List Declaration}
  {behind : Bool} {name : String}

/-- Validity passes to whatever stands in a type. -/
theorem ValidAmong.of_occurs {inner : NativeType} (h : type.ValidAmong declarations)
    (lift : ∀ {part behind}, Occurs part behind inner → ∃ behind', Occurs part behind' type) :
    inner.ValidAmong declarations where
  declared _ name occurs :=
    let ⟨behind, occurs⟩ := lift occurs
    h.declared behind name occurs
  positive _ element length occurs :=
    let ⟨behind, occurs⟩ := lift occurs
    h.positive behind element length occurs
  structural _ part occurs :=
    let ⟨behind, occurs⟩ := lift occurs
    h.structural behind part occurs

theorem Occurs.wellFormed (h : Occurs part behind type) (wellFormed : type.WellFormed types) :
    part.WellFormed types := by
  induction h with
  | whole => exact wellFormed
  | element _ _ ih => exact ih wellFormed.2
  | pointee _ _ ih => exact ih wellFormed
  | field => exact wellFormed.elim

theorem validAmong_of_wellFormed (wellFormed : type.WellFormed types) :
    type.ValidAmong types.declarations where
  declared _ _ occurs := Registry.has_iff.mp (occurs.wellFormed wellFormed)
  positive _ _ _ occurs := Check.isPositiveCount_iff.mp (occurs.wellFormed wellFormed).1
  structural _ part occurs := by
    have inner := occurs.wellFormed wellFormed
    cases part with
    | enum | struct => exact inner.elim
    | _ => rfl

theorem wellFormed_of_validAmong {types : Registry} : ∀ {type : NativeType},
    type.ValidAmong types.declarations → type.WellFormed types
  | .ref name, valid => Registry.has_iff.mpr (valid.declared false name .whole)
  | .array element length, valid =>
    ⟨Check.isPositiveCount_iff.mpr (valid.positive false element length .whole),
      wellFormed_of_validAmong (valid.of_occurs fun occurs => ⟨_, .element length occurs⟩)⟩
  | .pointer pointee nullable, valid =>
    show pointee.WellFormed types from
      wellFormed_of_validAmong (valid.of_occurs fun occurs => ⟨true, .pointee nullable occurs⟩)
  | .enum _ _, valid | .struct _ _, valid => nomatch valid.structural false _ .whole
  | .bool, _ | .void, _ | .untyped, _ | .int _ _, _ | .float _, _ => trivial

/-- The well-formed types are the valid ones. -/
theorem wellFormed_iff_validAmong : type.WellFormed types ↔ type.ValidAmong types.declarations :=
  ⟨validAmong_of_wellFormed, wellFormed_of_validAmong⟩

/-! ### References that are collected -/

theorem Embeds.occurs (h : type.Embeds name) : Occurs (.ref name) false type := by
  induction h with
  | ref name => exact .whole
  | array length _ ih => exact .element length ih
  | field layout hf _ ih => exact .field layout hf ih

theorem Occurs.embeds (h : Occurs part behind type) (reference : part = .ref name)
    (outside : behind = false) : type.Embeds name := by
  induction h with
  | whole => exact reference ▸ .ref name
  | element length _ ih => exact .array length (ih outside)
  | pointee => cases outside
  | field layout hf _ ih => exact .field layout hf (ih outside)

/-- What is collected are the references that stand behind no pointer. -/
theorem mem_valueRefs_iff_occurs : name ∈ type.valueRefs ↔ Occurs (.ref name) false type := by
  rw [mem_valueRefs_iff]
  exact ⟨Embeds.occurs, fun occurs => occurs.embeds rfl rfl⟩

end NativeType

/-! ## Declarations -/

/-- An enum with a positive and safe width, and variants whose names are distinct and whose values
are distinct and fit. -/
structure ValidEnum (tagBits : Int) (variants : List Variant) : Prop where
  width : 1 ≤ tagBits ∧ tagBits ≤ 2 ^ 53 - 1
  inhabited : variants ≠ []
  names : (variants.map (·.name)).Nodup
  values : (variants.map (·.value)).Nodup
  fits : ∀ v ∈ variants, 0 ≤ v.value ∧ v.value < 2 ^ tagBits.toNat

/-- What a declaration has to be, among declarations that its references may lead to. -/
def Declaration.ValidAmong (d : Declaration) (declarations : List Declaration) : Prop :=
  match d.type with
  | .struct _ fields =>
    (fields.map (·.name)).Nodup ∧ ∀ f ∈ fields, f.type.ValidAmong declarations
  | .enum tagBits variants => ValidEnum tagBits variants
  | type => type.ValidAmong declarations

/-- Declarations with distinct names, each of them valid. -/
structure ValidDeclarations (declarations : List Declaration) : Prop where
  distinct : (declarations.map (·.name)).Nodup
  each : ∀ d ∈ declarations, d.ValidAmong declarations

/-- The tag of an enum is narrow enough for the number of its discriminants to be computed. -/
def Declaration.Manageable (d : Declaration) : Prop :=
  ∀ tagBits variants, d.type = .enum tagBits variants → tagBits ≤ Check.maxTagBits

theorem Check.declaration_enum_eq_ok_iff_validEnum {types : Registry} {d : Declaration}
    {tagBits : Int} {members : List Variant} (enum : d.type = .enum tagBits members)
    (manageable : tagBits ≤ maxTagBits) :
    declaration types d = .ok () ↔ ValidEnum tagBits members := by
  rw [declaration_enum_eq_ok_iff enum, variants_eq_ok_iff, isPositiveCount_iff]
  simp only [fitsTag_iff, List.map_nil, List.not_mem_nil, not_false_eq_true, and_true]
  constructor
  · rintro ⟨width, inhabited, -, fits, names, values⟩
    exact ⟨width, inhabited, names, values, fits⟩
  · rintro ⟨width, inhabited, names, values, fits⟩
    exact ⟨width, inhabited, manageable, fits, names, values⟩

/-- The declarations that pass are the valid ones. -/
theorem Check.declaration_eq_ok_iff_validAmong {types : Registry} {d : Declaration}
    (manageable : d.Manageable) :
    declaration types d = .ok () ↔ d.ValidAmong types.declarations := by
  unfold Declaration.ValidAmong
  split
  · rename_i layout fields struct
    rw [declaration_eq_ok_iff_of_struct struct, and_comm]
    simp only [NativeType.wellFormed_iff_validAmong]
  · rename_i tagBits variants enum
    exact declaration_enum_eq_ok_iff_validEnum enum (manageable tagBits variants enum)
  · rename_i noStruct noEnum
    have structural : d.type.isNominal = false := by
      cases htype : d.type with
      | enum tagBits variants => exact absurd htype (noEnum tagBits variants)
      | struct layout fields => exact absurd htype (noStruct layout fields)
      | _ => rfl
    rw [declaration_eq_ok_iff_of_structural structural, NativeType.wellFormed_iff_validAmong]

/-! ## Lists of declarations -/

namespace Registry

variable {declarations : List Declaration} {types : Registry}

/-- Each name is recorded once. -/
theorem nodup_eraseDups : ∀ names : List String, names.eraseDups.Nodup
  | [] => List.nodup_nil
  | name :: rest => by
    have fewer := List.length_filter_le (fun other => !other == name) rest
    rw [List.eraseDups_cons, List.nodup_cons]
    -- What comes after a name is what differs from it.
    refine ⟨?_, nodup_eraseDups _⟩
    simp [List.mem_eraseDups]
termination_by names => names.length

/-- What a declaration is recorded to hold by value. -/
theorem mem_dependencies_iff_occurs {d : Declaration} (hd : d ∈ types.declarations)
    {name : String} :
    name ∈ types.dependencies d.name ↔ NativeType.Occurs (.ref name) false d.type := by
  rw [dependencies, find?_eq_some_iff.mpr ⟨hd, rfl⟩, List.mem_eraseDups]
  exact NativeType.mem_valueRefs_iff_occurs

theorem nodup_dependencies (types : Registry) (name : String) :
    (types.dependencies name).Nodup := by
  unfold dependencies
  split
  · exact nodup_eraseDups _
  · exact List.nodup_nil

theorem all_eq_ok_iff_validAmong (manageable : ∀ d ∈ types.declarations, d.Manageable) :
    Check.all types = .ok () ↔ ∀ d ∈ types.declarations, d.ValidAmong types.declarations := by
  rw [all_eq_ok_iff]
  exact forall₂_congr fun d hd => Check.declaration_eq_ok_iff_validAmong (manageable d hd)

/-- Declarations with manageable tags pass exactly if they are valid: that names are distinct, and
that each satisfies its own rules, is checked one after the other. Among declarations that pass, a
type passes exactly if it is valid, wherever it stands; what is collected from a type are its
references outside pointers; and a declaration is recorded to hold by value what it references so,
each name once. -/
theorem declarations_pass_iff (manageable : ∀ d ∈ declarations, d.Manageable) :
    ((∃ types, ofList declarations = .ok types ∧ Check.all types = .ok ()) ↔
      ValidDeclarations declarations) ∧
    ∀ types, ofList declarations = .ok types → Check.all types = .ok () →
      (∀ type,
        (∀ context, Check.type types type context = .ok () ↔ type.ValidAmong declarations) ∧
        ∀ name, name ∈ type.valueRefs ↔ NativeType.Occurs (.ref name) false type) ∧
      ∀ d ∈ declarations, (types.dependencies d.name).Nodup ∧
        ∀ name, name ∈ types.dependencies d.name ↔
          NativeType.Occurs (.ref name) false d.type := by
  refine ⟨⟨?_, fun valid => ?_⟩, fun types made _ => ?_⟩
  · rintro ⟨types, made, checked⟩
    obtain rfl := declarations_ofList made
    exact ⟨types.distinct, (all_eq_ok_iff_validAmong manageable).mp checked⟩
  · exact ⟨_, ofList_of_distinct valid.distinct,
      (all_eq_ok_iff_validAmong manageable).mpr valid.each⟩
  · obtain rfl := declarations_ofList made
    refine ⟨fun type => ⟨fun context => ?_, fun name => ?_⟩, fun d hd => ⟨?_, fun name => ?_⟩⟩
    · rw [Check.type_eq_ok_iff, NativeType.wellFormed_iff_validAmong]
    · exact NativeType.mem_valueRefs_iff_occurs
    · exact types.nodup_dependencies d.name
    · exact mem_dependencies_iff_occurs hd

/-- A struct that holds arrays of arrays of an enum, and points to itself. -/
def listStruct : Declaration :=
  ⟨"list_t", .struct .cAbi [⟨"items", .array (.array (.ref "kind_t") 2) 3, false⟩,
    ⟨"next", .pointer (.ref "list_t") true, false⟩]⟩

/-- The struct before the enum. -/
def linked : List Declaration :=
  [listStruct, ⟨"kind_t", .enum 2 [⟨"plain", 0⟩, ⟨"last", 3⟩]⟩, ⟨"alias_t", .ref "list_t"⟩]

theorem declarations_pass_iff_linked : (∀ d ∈ linked, d.Manageable) ∧
    ValidDeclarations linked ∧ ∃ types, ofList linked = .ok types ∧ Check.all types = .ok () ∧
      types.dependencies "list_t" = ["kind_t"] ∧
      ∀ name, NativeType.Occurs (.ref name) false listStruct.type ↔ name = "kind_t" := by
  have manageable : ∀ d ∈ linked, d.Manageable := by
    intro d hd tagBits variants enum
    simp only [linked, List.mem_cons, List.not_mem_nil, or_false] at hd
    rcases hd with rfl | rfl | rfl <;> cases enum
    decide
  obtain ⟨exactly, collected⟩ := declarations_pass_iff manageable
  refine ⟨manageable, exactly.mp ⟨_, rfl, rfl⟩, _, rfl, rfl, rfl, fun name => ?_⟩
  have recorded := ((collected _ rfl rfl).2 listStruct List.mem_cons_self).2 name
  rw [← recorded]
  exact List.mem_singleton

end Registry
end NativeBindings
