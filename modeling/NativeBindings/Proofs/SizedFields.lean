import NativeBindings.Proofs.Entries
import NativeBindings.Proofs.RepresentedTypes

/-!
# Fields with a size

A structure class is laid out from the sizes of its fields, so every representation in a list of
fields has to have one. All have but the absence of a value and arrays of it
(`Ctype.size?_inArrays`), which is what represents a void, and a void behind arrays and aliases
(`Names.size?_eq_none_iff`).

* `Registry.EndsInVoid`: behind aliases and arrays stands a void.
* `StructBinding.sized_iff`: the fields of one class.
* `Composition.fields_sized_iff`: the fields of all structure classes have sizes exactly if no field
  of a mapped struct, reserved or not, ends in a void.

Nothing before the layout rules a void out, so not every module is such
(`Composition.field_without_size`).
-/
namespace NativeBindings

/-! ## Sizes -/

namespace Ctype

/-- The number of bytes of a representation, where pointers have `word` of them. The absence of a
value has no size, and neither has an array of it. -/
def size? (word : Int) : Ctype → Option Int
  | .none => Option.none
  | .bool => some 1
  | .unsigned width => some (width.bits / 8)
  | .untypedPointer | .pointer _ => some word
  | .array element length => (element.size? word).map (· * length)

/-- Arrays multiply a size, and make none. -/
theorem size?_inArrays (word : Int) (lengths : List Int) (core : Ctype) :
    (inArrays .array lengths core).size? word = (core.size? word).map (· * lengths.prod) := by
  induction lengths with
  | nil => simp [inArrays]
  | cons length rest ih =>
    have outermost : inArrays .array (length :: rest) core =
      .array (inArrays .array rest core) length := rfl
    rw [outermost, size?, ih, Option.map_map]
    refine congrFun (congrArg Option.map ?_) _
    funext size
    rw [Function.comp_apply, List.prod_cons, Int.mul_assoc, Int.mul_comm rest.prod]

end Ctype

/-! ## Types that end in a void -/

namespace Registry

/-- Behind aliases and arrays stands a void. -/
def EndsInVoid (types : Registry) (type : NativeType) : Prop :=
  ∃ lengths r, types.HasCore type lengths r ∧ r.type = .void

theorem HasCore.endsInVoid_iff {types : Registry} {type : NativeType} {lengths : List Int}
    {r : Resolved} (core : types.HasCore type lengths r) :
    types.EndsInVoid type ↔ r.type = .void := by
  constructor
  · rintro ⟨lengths', r', core', void⟩
    obtain ⟨-, rfl⟩ := core.unique core'
    exact void
  · exact fun void => ⟨lengths, r, core, void⟩

end Registry

namespace Names

variable {names : Names} {type : NativeType} {ctype : Ctype} {context : String}

theorem CoreCtype.size?_eq_none_iff (h : names.CoreCtype type ctype) (word : Int) :
    ctype.size? word = none ↔ type = .void := by
  cases h <;> simp [Ctype.size?]

/-- What ends in a void is represented, and has no size. -/
theorem size?_eq_none_iff (sound : names.types.Sound) (wellFormed : type.WellFormed names.types)
    (represented : names.ctype type context = .ok ctype) (word : Int) :
    ctype.size? word = none ↔ names.types.EndsInVoid type := by
  obtain ⟨lengths, r, core⟩ := sound.exists_core wellFormed
  obtain ⟨inner, ofCore, rfl⟩ :=
    (ctype_eq_ok_iff_of_hasCore sound core wellFormed).mp represented
  rw [Ctype.size?_inArrays, Option.map_eq_none_iff, ofCore.size?_eq_none_iff, core.endsInVoid_iff]

end Names

/-! ## Layouts -/

namespace StructBinding

def Sized (b : StructBinding) (word : Int) : Prop :=
  ∀ entry ∈ b.layout, ∃ size, entry.2.size? word = some size

/-- What is laid out are the fields, and those that end in a void have no size. -/
theorem sized_iff {names : Names} {owner : String} {fields : Fields} {b : StructBinding}
    (sound : names.types.Sound) (wellFormed : ∀ f ∈ fields, f.type.WellFormed names.types)
    (layout : fields.mapM (layoutField names owner) = .ok b.layout) (word : Int) :
    b.Sized word ↔ ∀ f ∈ fields, ¬ names.types.EndsInVoid f.type := by
  constructor
  · intro sized f hf void
    obtain ⟨⟨name, ctype⟩, lowered⟩ := isOk_of_mapM layout hf
    obtain ⟨size, has⟩ := sized (name, ctype) ((mem_iff_of_mapM layout).mpr ⟨f, hf, lowered⟩)
    have represented := (layoutField_eq_ok_iff.mp lowered).2
    have none := (names.size?_eq_none_iff sound (wellFormed f hf) represented word).mpr void
    rw [none] at has
    cases has
  · rintro noVoid ⟨name, ctype⟩ hentry
    obtain ⟨f, hf, lowered⟩ := (mem_iff_of_mapM layout).mp hentry
    have represented := (layoutField_eq_ok_iff.mp lowered).2
    refine Option.ne_none_iff_exists'.mp fun none => noVoid f hf ?_
    exact (names.size?_eq_none_iff sound (wellFormed f hf) represented word).mp none

end StructBinding

def NamedDeclaration.HasVoidField (e : NamedDeclaration) (types : Registry) : Prop :=
  ∃ fields, e.declaration.type = .struct .cAbi fields ∧ ∃ f ∈ fields, types.EndsInVoid f.type

def BindingModule.FieldsSized (m : BindingModule) (word : Int) : Prop :=
  ∀ b ∈ m.bindings, b.Sized word

namespace Composition

variable {c : Composition} {entries : List NamedDeclaration} {m : BindingModule}

theorem Passes.sized_iff (passes : c.Passes entries m) (sound : c.Sound) {e : NamedDeclaration}
    {b : StructBinding} (he : e ∈ entries) (built : e.binding c.names = .ok b) (word : Int) :
    b.Sized word ↔ ¬ e.HasVoidField c.types := by
  obtain ⟨fields, struct, -, layout⟩ := NamedDeclaration.binding_eq_ok built
  have wellFormed := sound.types.field_wellFormed (passes.found he) struct
  rw [StructBinding.sized_iff sound.types wellFormed layout]
  constructor
  · rintro noVoid ⟨fields', struct', f, hf, void⟩
    obtain rfl : fields = fields' := by simpa [struct] using struct'
    exact noVoid f hf void
  · exact fun noVoid f hf void => noVoid ⟨fields, struct, f, hf, void⟩

/-- In a generated module, the fields of all structure classes have sizes exactly if no field of a
mapped struct ends in a void. -/
theorem fields_sized_iff {protocol domain : Document} {options : GeneratorOptions}
    (composed : compose protocol domain = .ok c)
    (generated : (c.generate options).runLog.1 = .ok m) :
    ∃ entries, c.names.all = .ok entries ∧
      ∀ word, m.FieldsSized word ↔ ∀ e ∈ entries, ¬ e.HasVoidField c.types := by
  have sound := sound_of_compose composed
  obtain ⟨entries, passes⟩ := passes_of_generate generated
  refine ⟨entries, passes.listed, fun word => ?_⟩
  constructor
  · intro sized e he
    by_cases struct : e.isStruct = true
    · obtain ⟨b, built⟩ := passes.binding_isOk he struct
      have hb := passes.mem_bindings_iff.mpr ⟨e, he, struct, built⟩
      exact (passes.sized_iff sound he built word).mp (sized b hb)
    · rintro ⟨fields, htype, -⟩
      exact struct (NamedDeclaration.isStruct_iff.mpr ⟨fields, htype⟩)
  · intro noVoid b hb
    obtain ⟨e, he, -, built⟩ := passes.mem_bindings_iff.mp hb
    exact (passes.sized_iff sound he built word).mpr (noVoid e he)

/-! ### Rows of cells, and gaps -/

/-- Arrays of arrays, one of them declared on its own. -/
def grid : Document :=
  .ofDeclarations
    [⟨"row_t", .array (.int 16 false) 4⟩,
      ⟨"grid_t", .struct .cAbi [⟨"rows", .array (.ref "row_t") 3, false⟩,
        ⟨"reserved", .array (.int 8 false) 8, true⟩]⟩]
    [("grid_t", "Grid")]

theorem fields_sized_iff_grid : ∃ c m, compose .bareProtocol grid = .ok c ∧
    (c.generate default).runLog.1 = .ok m ∧ m.FieldsSized 8 := by
  refine ⟨_, _, rfl, rfl, ?_⟩
  obtain ⟨entries, listed, exactly⟩ := @fields_sized_iff _ _ .bareProtocol grid default rfl rfl
  obtain rfl := Except.ok.inj listed
  have data {types : Registry} :
      types.HasCore (.pointer .untyped true) [] ⟨.pointer .untyped true, none⟩ :=
    .core (.here nofun) nofun
  have rows {types : Registry}
      (row : types.find? "row_t" = some ⟨"row_t", .array (.int 16 false) 4⟩) :
      types.HasCore (.array (.ref "row_t") 3) [3, 4] ⟨.int 16 false, none⟩ :=
    .array (.here nofun) <| .array (.ref row (.here nofun)) <| .core (.here nofun) nofun
  have reserved {types : Registry} :
      types.HasCore (.array (.int 8 false) 8) [8] ⟨.int 8 false, none⟩ :=
    .array (.here nofun) <| .core (.here nofun) nofun
  refine (exactly 8).mpr fun e he => ?_
  rintro ⟨fields, struct, f, hf, void⟩
  simp only [List.mem_append, List.mem_reverse, List.mem_cons, List.not_mem_nil, or_false] at he
  rcases he with (rfl | rfl) | rfl
  · cases struct
    cases List.mem_singleton.mp hf
    cases data.endsInVoid_iff.mp void
  · cases struct
  · cases struct
    rcases List.mem_pair.mp hf with rfl | rfl
    · cases (rows (by rfl)).endsInVoid_iff.mp void
    · cases reserved.endsInVoid_iff.mp void

/-- A field of no value, and an array of an alias of it. -/
def gaps : Document :=
  .ofDeclarations
    [⟨"nothing_t", .void⟩,
      ⟨"gap_t", .struct .cAbi [⟨"gap", .void, false⟩,
        ⟨"slots", .array (.ref "nothing_t") 3, true⟩]⟩]
    [("gap_t", "Gap")]

def gapBinding : StructBinding where
  name := "Gap"
  checks := []
  stored := [("gap", .plain)]
  restored := some [("gap", .plain)]
  layout := [("gap", .none), ("slots", .array .none 3)]

/-- The class has two fields, and none of them has a size. -/
theorem field_without_size : ∃ c m, compose .bareProtocol gaps = .ok c ∧
    (c.generate default).runLog.1 = .ok m ∧ gapBinding ∈ m.bindings ∧
    "    (\"gap\", None)," ∈ gapBinding.fieldLines ∧
    "    (\"slots\", None * 3)," ∈ gapBinding.fieldLines ∧
    (∀ word, ∀ entry ∈ gapBinding.layout, entry.2.size? word = none) ∧
    ∀ word, ¬ m.FieldsSized word := by
  refine ⟨_, _, rfl, rfl, by decide, by decide, by decide, ?_, fun word sized => ?_⟩
  · simp [gapBinding, Ctype.size?]
  · obtain ⟨size, has⟩ := sized gapBinding (by decide) ("gap", .none) (by decide)
    cases has

end Composition
end NativeBindings
