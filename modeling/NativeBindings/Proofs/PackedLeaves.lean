import NativeBindings.Proofs.PackedWidths
import Mathlib.Algebra.BigOperators.Group.List.Basic
import Mathlib.Algebra.Order.BigOperators.Group.List
import Mathlib.Algebra.Order.Ring.Int

/-!
# Leaves of packed structs

What the fields of a packed struct come down to if every reference is replaced by what it names and
every nested packed struct by its fields (`Registry.Inlines`). Over a sound registry this always
ends (`Registry.Sound.exists_inlines`), at one list of leaves (`Registry.Inlines.unique`).

* `Registry.Inlines.haveWidths_iff`: fields have widths exactly if every leaf is a bool, an unsigned
  integer or an enum.
* `Registry.CountsTo.eq_sum`: as long as no total on the way leaves the safe integers, the total is
  the sum of the widths of the leaves.
* `Registry.Inlines.countsTo`, `Registry.Inlines.maxSafe_lt`: where no leaf has a negative width,
  that is so exactly if the sum is safe, and a sum that is not safe gives no safe width.
* `Registry.packedFieldsWidth_leaves`: the width of a packed struct in terms of its leaves, and so
  in any order of the fields, in two parts, and with a nested struct or a reference replaced.
-/
namespace NativeBindings

/-! ## Leaves -/

namespace NativeType

/-- Neither a reference nor a packed struct, which stand for other types. -/
def isPackedLeaf : NativeType → Bool
  | ref _ => false
  | struct layout _ => layout != .packed
  | _ => true

/-- A bool, an unsigned integer or an enum, the types whose values are bits of a packed struct. -/
def isPackable : NativeType → Bool
  | bool => true
  | int _ signed => !signed
  | enum _ _ => true
  | _ => false

def leafWidth : NativeType → Int
  | bool => 1
  | int bits _ => bits
  | enum tagBits _ => tagBits
  | _ => 0

theorem isPackedLeaf_of_isPackable {type : NativeType} (h : type.isPackable = true) :
    type.isPackedLeaf = true := by
  cases type <;> first | rfl | cases h

end NativeType

def leafSum (leaves : List NativeType) : Int := (leaves.map NativeType.leafWidth).sum

@[simp]
theorem leafSum_nil : leafSum [] = 0 := rfl

@[simp]
theorem leafSum_cons (leaf : NativeType) (leaves : List NativeType) :
    leafSum (leaf :: leaves) = leaf.leafWidth + leafSum leaves := List.sum_cons

@[simp]
theorem leafSum_append (leaves leaves' : List NativeType) :
    leafSum (leaves ++ leaves') = leafSum leaves + leafSum leaves' := by
  rw [leafSum, List.map_append, List.sum_append, leafSum, leafSum]

theorem leafSum_perm {leaves leaves' : List NativeType} (h : leaves.Perm leaves') :
    leafSum leaves = leafSum leaves' := (h.map _).sum_eq

theorem leafSum_nonneg {leaves : List NativeType} (h : ∀ leaf ∈ leaves, 0 ≤ leaf.leafWidth) :
    0 ≤ leafSum leaves := List.sum_nonneg (List.forall_mem_map.mpr h)

def fieldTypes (fields : Fields) : List NativeType := fields.map (·.type)

@[simp]
theorem fieldTypes_append (fields fields' : Fields) :
    fieldTypes (fields ++ fields') = fieldTypes fields ++ fieldTypes fields' := List.map_append

namespace Registry

/-- Types come down to leaves if every reference is replaced by the type that it names and every
packed struct by the types of its fields. -/
inductive Inlines (types : Registry) : List NativeType → List NativeType → Prop
  | nil : Inlines types [] []
  | ref {name : String} {d : Declaration} {rest leaves : List NativeType}
      (found : types.find? name = some d) (named : Inlines types (d.type :: rest) leaves) :
      Inlines types (.ref name :: rest) leaves
  | packed {fields : Fields} {rest inner leaves : List NativeType}
      (nested : Inlines types (fieldTypes fields) inner) (others : Inlines types rest leaves) :
      Inlines types (.struct .packed fields :: rest) (inner ++ leaves)
  | leaf {type : NativeType} {rest leaves : List NativeType} (ends : type.isPackedLeaf = true)
      (others : Inlines types rest leaves) : Inlines types (type :: rest) (type :: leaves)

variable {types : Registry} {source source' leaves leaves' : List NativeType} {before total : Int}
  {fields : Fields}

namespace Inlines

theorem ref_iff {name : String} {d : Declaration} {rest : List NativeType}
    (found : types.find? name = some d) :
    types.Inlines (.ref name :: rest) leaves ↔ types.Inlines (d.type :: rest) leaves := by
  constructor
  · intro h
    cases h with
    | ref found' named =>
      obtain rfl : d = _ := Option.some.inj (found.symm.trans found')
      exact named
    | leaf ends => cases ends
  · exact .ref found

theorem packed_iff {rest : List NativeType} :
    types.Inlines (.struct .packed fields :: rest) leaves ↔ ∃ inner others,
      leaves = inner ++ others ∧ types.Inlines (fieldTypes fields) inner ∧
        types.Inlines rest others := by
  constructor
  · intro h
    cases h with
    | packed nested others => exact ⟨_, _, rfl, nested, others⟩
    | leaf ends => cases ends
  · rintro ⟨_, _, rfl, nested, others⟩
    exact .packed nested others

theorem leaf_iff {type : NativeType} {rest : List NativeType} (ends : type.isPackedLeaf = true) :
    types.Inlines (type :: rest) leaves ↔
      ∃ others, leaves = type :: others ∧ types.Inlines rest others := by
  constructor
  · intro h
    cases h with
    | ref => cases ends
    | packed => cases ends
    | leaf _ others => exact ⟨_, rfl, others⟩
  · rintro ⟨_, rfl, others⟩
    exact .leaf ends others

theorem unique (h : types.Inlines source leaves) (h' : types.Inlines source leaves') :
    leaves' = leaves := by
  induction h generalizing leaves' with
  | nil =>
    cases h'
    rfl
  | ref found _ ih => exact ih ((ref_iff found).mp h')
  | packed _ _ ihNested ihOthers =>
    obtain ⟨inner, others, rfl, nested', others'⟩ := packed_iff.mp h'
    rw [ihNested nested', ihOthers others']
  | leaf ends _ ih =>
    obtain ⟨others, rfl, others'⟩ := (leaf_iff ends).mp h'
    rw [ih others']

theorem append (h : types.Inlines source leaves) (h' : types.Inlines source' leaves') :
    types.Inlines (source ++ source') (leaves ++ leaves') := by
  induction h with
  | nil => exact h'
  | ref found _ ih => exact .ref found ih
  | packed nested _ _ ih =>
    rw [List.append_assoc]
    exact .packed nested ih
  | leaf ends _ ih => exact .leaf ends ih

theorem split (h : types.Inlines (source ++ source') leaves) : ∃ first second,
    leaves = first ++ second ∧ types.Inlines source first ∧ types.Inlines source' second := by
  generalize joined : source ++ source' = all at h
  -- The first part changes on the way: a reference in it gives its place to what it names.
  induction h generalizing source with
  | nil =>
    obtain ⟨rfl, rfl⟩ := List.append_eq_nil_iff.mp joined
    exact ⟨[], [], rfl, .nil, .nil⟩
  | @ref name d rest leaves found named ih =>
    rcases List.append_eq_cons_iff.mp joined with ⟨rfl, rfl⟩ | ⟨source, rfl, rfl⟩
    · exact ⟨[], leaves, rfl, .nil, .ref found named⟩
    · obtain ⟨first, second, rfl, left, right⟩ := @ih (d.type :: source) rfl
      exact ⟨first, second, rfl, .ref found left, right⟩
  | @packed fields rest inner leaves nested others _ ih =>
    rcases List.append_eq_cons_iff.mp joined with ⟨rfl, rfl⟩ | ⟨source, rfl, rfl⟩
    · exact ⟨[], inner ++ leaves, rfl, .nil, .packed nested others⟩
    · obtain ⟨first, second, rfl, left, right⟩ := @ih source rfl
      exact ⟨inner ++ first, second, (List.append_assoc _ _ _).symm, .packed nested left, right⟩
  | @leaf type rest leaves ends others ih =>
    rcases List.append_eq_cons_iff.mp joined with ⟨rfl, rfl⟩ | ⟨source, rfl, rfl⟩
    · exact ⟨[], type :: leaves, rfl, .nil, .leaf ends others⟩
    · obtain ⟨first, second, rfl, left, right⟩ := @ih source rfl
      exact ⟨type :: first, second, rfl, .leaf ends left, right⟩

/-- Types in another order come down to the same leaves in another order. -/
theorem perm (h : types.Inlines source leaves) (reordered : source.Perm source') :
    ∃ leaves', leaves.Perm leaves' ∧ types.Inlines source' leaves' := by
  induction reordered generalizing leaves with
  | nil => exact ⟨leaves, .rfl, h⟩
  | cons type _ ih =>
    obtain ⟨first, second, rfl, left, right⟩ := @split types [type] _ _ h
    obtain ⟨second', same, right'⟩ := ih right
    exact ⟨first ++ second', same.append_left first, left.append right'⟩
  | swap a b rest =>
    obtain ⟨first, others, rfl, left, right⟩ := @split types [b] _ _ h
    obtain ⟨second, third, rfl, middle, last⟩ := @split types [a] _ _ right
    refine ⟨second ++ (first ++ third), ?_, middle.append (left.append last)⟩
    rw [← List.append_assoc, ← List.append_assoc]
    exact List.perm_append_comm.append_right third
  | trans _ _ ih ih' =>
    obtain ⟨leaves', same, h'⟩ := ih h
    obtain ⟨leaves'', same', h''⟩ := ih' h'
    exact ⟨leaves'', same.trans same', h''⟩

/-- What comes down to the same leaves can be put in place of a part. -/
theorem replace {before part part' after : List NativeType}
    (h : types.Inlines (before ++ part ++ after) leaves)
    (same : ∀ inner, types.Inlines part inner → types.Inlines part' inner) :
    types.Inlines (before ++ part' ++ after) leaves := by
  obtain ⟨_, last, rfl, left, right⟩ := split h
  obtain ⟨first, middle, rfl, start, replaced⟩ := split left
  exact (start.append (same middle replaced)).append right

/-- A packed struct at the end of references comes down to what its fields do. -/
theorem fieldTypes_of_resolvesTo {type : NativeType} {r : Resolved}
    (ends : types.ResolvesTo type r) (nested : r.type = .struct .packed fields)
    (h : types.Inlines [type] leaves) : types.Inlines (fieldTypes fields) leaves := by
  induction ends with
  | here =>
    obtain rfl := nested
    obtain ⟨inner, others, rfl, inlined, rest⟩ := packed_iff.mp h
    cases rest
    rwa [List.append_nil]
  | ref found _ ih => exact ih nested ((ref_iff found).mp h)

end Inlines

mutual

/-- A type comes down to leaves if everything that it holds by value does. -/
theorem exists_inlines_of_mentions : ∀ type : NativeType,
    (∀ held ∈ type.valueRefs, ∃ leaves, types.Inlines [.ref held] leaves) →
    ∃ leaves, types.Inlines [type] leaves
  | .ref name, mentions => mentions name (by simp [NativeType.valueRefs])
  | .struct .packed fields, mentions => by
    obtain ⟨leaves, nested⟩ := exists_inlines_of_fieldMentions fields mentions
    exact ⟨leaves ++ [], .packed nested .nil⟩
  | .struct .cAbi fields, _ | .struct .auto fields, _ => ⟨_, .leaf rfl .nil⟩
  | .bool, _ | .void, _ | .untyped, _ | .int _ _, _ | .float _, _ => ⟨_, .leaf rfl .nil⟩
  | .array _ _, _ | .pointer _ _, _ | .enum _ _, _ => ⟨_, .leaf rfl .nil⟩

theorem exists_inlines_of_fieldMentions : ∀ fields : Fields,
    (∀ held ∈ fieldValueRefs fields, ∃ leaves, types.Inlines [.ref held] leaves) →
    ∃ leaves, types.Inlines (fieldTypes fields) leaves
  | [], _ => ⟨[], .nil⟩
  | ⟨_, type, _⟩ :: rest, mentions => by
    simp only [fieldValueRefs, List.mem_append, or_imp, forall_and] at mentions
    obtain ⟨first, left⟩ := exists_inlines_of_mentions type mentions.1
    obtain ⟨others, right⟩ := exists_inlines_of_fieldMentions rest mentions.2
    exact ⟨first ++ others, left.append right⟩

end

/-- Over a sound registry, inlining well-formed types ends. -/
theorem Sound.exists_inlines (sound : types.Sound)
    (wellFormed : ∀ f ∈ fields, f.type.WellFormed types) :
    ∃ leaves, types.Inlines (fieldTypes fields) leaves := by
  refine exists_inlines_of_fieldMentions fields fun name mention => ?_
  obtain ⟨f, hf, held⟩ := embeds_of_mem_fieldValueRefs mention
  -- By the height of what is held by value: a declaration is above everything that it mentions.
  refine sound.held_induction name ((wellFormed f hf).has_of_embeds held) ?_
  intro name d found inner
  obtain ⟨leaves, named⟩ := exists_inlines_of_mentions d.type inner
  exact ⟨leaves, .ref found named⟩

/-! ## Which fields have widths -/

theorem haveWidths_iff_fieldTypes {widths : List Int} : types.HaveWidths fields widths ↔
    List.Forall₂ types.HasWidth (fieldTypes fields) widths := by
  rw [HaveWidths, fieldTypes, List.forall₂_map_left_iff]

/-- The width of a reference is that of the type that it names. -/
theorem Sound.hasWidth_ref_iff (sound : types.Sound) {name : String} {d : Declaration}
    (found : types.find? name = some d) {width : Int} :
    types.HasWidth (.ref name) width ↔ types.HasWidth d.type width := by
  simp only [HasWidth, sound.packedWidth_ref found]

/-- Leaves have widths exactly if they are packable. -/
theorem hasWidth_leaf_iff {type : NativeType} (ends : type.isPackedLeaf = true) {width : Int} :
    types.HasWidth type width ↔ type.isPackable = true ∧ width = type.leafWidth := by
  cases type with
  | bool | int _ _ | enum _ _ => simp [NativeType.isPackable, NativeType.leafWidth]
  | ref _ => cases ends
  | struct layout _ =>
    cases layout with
    | packed => cases ends
    | cAbi | auto => simp [HasWidth, packedWidth, packedWidthWith, NativeType.isPackable]
  | _ => simp [HasWidth, packedWidth, packedWidthWith, NativeType.isPackable]

/-- Types have widths exactly if what they come down to is packable. -/
theorem Inlines.haveWidths_iff (sound : types.Sound) (h : types.Inlines source leaves) :
    (∃ widths, List.Forall₂ types.HasWidth source widths) ↔
      ∀ leaf ∈ leaves, leaf.isPackable = true := by
  induction h with
  | nil => simp
  | ref found _ ih =>
    rw [← ih]
    simp only [List.forall₂_cons_left_iff, sound.hasWidth_ref_iff found]
  | packed _ _ ihNested ihOthers =>
    rw [List.forall_mem_append, ← ihNested, ← ihOthers]
    simp only [List.forall₂_cons_left_iff, hasWidth_packed_iff, haveWidths_iff_fieldTypes]
    constructor
    · rintro ⟨_, _, widths', ⟨widths, nested, -⟩, others, -⟩
      exact ⟨⟨widths, nested⟩, widths', others⟩
    · rintro ⟨⟨widths, nested⟩, widths', others⟩
      exact ⟨_, _, widths', ⟨widths, nested, rfl⟩, others, rfl⟩
  | leaf ends _ ih =>
    rw [List.forall_mem_cons, ← ih]
    simp only [List.forall₂_cons_left_iff, hasWidth_leaf_iff ends]
    constructor
    · rintro ⟨_, _, widths, ⟨packable, -⟩, others, -⟩
      exact ⟨packable, widths, others⟩
    · rintro ⟨packable, widths, others⟩
      exact ⟨_, _, widths, ⟨packable, rfl⟩, others, rfl⟩

/-! ## Totals that stay safe -/

/-- Counting the widths of types one after another, on from a total, ends at a total, and neither a
total on the way nor one within a nested struct leaves the safe integers. -/
inductive CountsTo (types : Registry) : Int → List NativeType → Int → Prop
  | nil (before : Int) : CountsTo types before [] before
  | ref {before total : Int} {name : String} {d : Declaration} {rest : List NativeType}
      (found : types.find? name = some d) (named : CountsTo types before (d.type :: rest) total) :
      CountsTo types before (.ref name :: rest) total
  | packed {before width total : Int} {fields : Fields} {rest : List NativeType}
      (nested : CountsTo types 0 (fieldTypes fields) width)
      (safe : Binary64.isSafe (before + width) = true)
      (others : CountsTo types (before + width) rest total) :
      CountsTo types before (.struct .packed fields :: rest) total
  | leaf {before total : Int} {type : NativeType} {rest : List NativeType}
      (packable : type.isPackable = true)
      (safe : Binary64.isSafe (before + type.leafWidth) = true)
      (others : CountsTo types (before + type.leafWidth) rest total) :
      CountsTo types before (type :: rest) total

/-- No total leaves the safe integers while the widths of fields are added up. -/
def StaysSafe (types : Registry) (fields : Fields) : Prop :=
  ∃ total, types.CountsTo 0 (fieldTypes fields) total

namespace CountsTo

/-- Totals that stay safe are not rounded. -/
theorem roundedSum_eq (sound : types.Sound) (h : types.CountsTo before source total) :
    ∃ widths, List.Forall₂ types.HasWidth source widths ∧ roundedSum before widths = total := by
  induction h with
  | nil before => exact ⟨[], .nil, rfl⟩
  | ref found _ ih =>
    obtain ⟨_, measured, rounded⟩ := ih
    obtain ⟨width, widths, first, others, rfl⟩ := List.forall₂_cons_left_iff.mp measured
    exact ⟨_, .cons ((sound.hasWidth_ref_iff found).mpr first) others, rounded⟩
  | @packed before width _ _ _ _ safe _ ihNested ihOthers =>
    obtain ⟨inner, measured, rfl⟩ := ihNested
    obtain ⟨widths, others, rounded⟩ := ihOthers
    have nested := hasWidth_packed_iff.mpr ⟨inner, haveWidths_iff_fieldTypes.mpr measured, rfl⟩
    refine ⟨_, .cons nested others, ?_⟩
    rw [roundedSum, List.foldl_cons, Binary64.nearest_of_isSafe safe]
    exact rounded
  | @leaf before _ type _ packable safe _ ih =>
    obtain ⟨widths, others, rounded⟩ := ih
    have ends := NativeType.isPackedLeaf_of_isPackable packable
    refine ⟨_, .cons ((hasWidth_leaf_iff ends).mpr ⟨packable, rfl⟩) others, ?_⟩
    rw [roundedSum, List.foldl_cons, Binary64.nearest_of_isSafe safe]
    exact rounded

/-- A total that stays safe adds what the types come down to. -/
theorem eq_sum (h : types.CountsTo before source total) (inlined : types.Inlines source leaves) :
    total = before + leafSum leaves := by
  induction h generalizing leaves with
  | nil before =>
    cases inlined
    simp
  | ref found _ ih => exact ih ((Inlines.ref_iff found).mp inlined)
  | packed _ _ _ ihNested ihOthers =>
    obtain ⟨inner, others, rfl, nested', others'⟩ := Inlines.packed_iff.mp inlined
    have width := ihNested nested'
    have total := ihOthers others'
    rw [leafSum_append]
    omega
  | leaf packable _ _ ih =>
    have ends := NativeType.isPackedLeaf_of_isPackable packable
    obtain ⟨others, rfl, others'⟩ := (Inlines.leaf_iff ends).mp inlined
    have total := ih others'
    rw [leafSum_cons]
    omega

theorem isSafe (h : types.CountsTo before source total) (start : Binary64.isSafe before = true) :
    Binary64.isSafe total = true := by
  induction h with
  | nil => exact start
  | ref _ _ ih => exact ih start
  | packed _ safe _ _ ih => exact ih safe
  | leaf _ safe _ ih => exact ih safe

/-- What is counted first is counted on its own. -/
theorem first (h : types.CountsTo before (source ++ source') total) :
    ∃ middle, types.CountsTo before source middle := by
  generalize joined : source ++ source' = all at h
  induction h generalizing source with
  | nil before =>
    obtain ⟨rfl, -⟩ := List.append_eq_nil_iff.mp joined
    exact ⟨before, .nil before⟩
  | @ref before _ name d rest found _ ih =>
    rcases List.append_eq_cons_iff.mp joined with ⟨rfl, -⟩ | ⟨source, rfl, rfl⟩
    · exact ⟨before, .nil before⟩
    · obtain ⟨middle, counted⟩ := @ih (d.type :: source) rfl
      exact ⟨middle, .ref found counted⟩
  | @packed before _ _ _ _ nested safe _ _ ih =>
    rcases List.append_eq_cons_iff.mp joined with ⟨rfl, -⟩ | ⟨source, rfl, rfl⟩
    · exact ⟨before, .nil before⟩
    · obtain ⟨middle, counted⟩ := ih rfl
      exact ⟨middle, .packed nested safe counted⟩
  | @leaf before _ _ _ packable safe _ ih =>
    rcases List.append_eq_cons_iff.mp joined with ⟨rfl, -⟩ | ⟨source, rfl, rfl⟩
    · exact ⟨before, .nil before⟩
    · obtain ⟨middle, counted⟩ := ih rfl
      exact ⟨middle, .leaf packable safe counted⟩

end CountsTo

/-! ## Widths that are not negative -/

/-- Where no leaf has a negative width, no total on the way is larger than the last. -/
theorem Inlines.countsTo (h : types.Inlines source leaves)
    (packable : ∀ leaf ∈ leaves, leaf.isPackable = true)
    (counted : ∀ leaf ∈ leaves, 0 ≤ leaf.leafWidth) (start : 0 ≤ before)
    (safe : before + leafSum leaves ≤ Binary64.maxSafe) :
    types.CountsTo before source (before + leafSum leaves) := by
  induction h generalizing before with
  | nil =>
    rw [leafSum_nil, Int.add_zero]
    exact .nil before
  | ref found _ ih => exact .ref found (ih packable counted start safe)
  | packed _ _ ihNested ihOthers =>
    rw [List.forall_mem_append] at packable counted
    rw [leafSum_append, ← Int.add_assoc] at safe ⊢
    have nested := leafSum_nonneg counted.1
    have others := leafSum_nonneg counted.2
    have inner := ihNested packable.1 counted.1 le_rfl (by omega)
    rw [Int.zero_add] at inner
    refine .packed inner ?_ (ihOthers packable.2 counted.2 (by omega) safe)
    simp only [Binary64.isSafe, decide_eq_true_eq]
    omega
  | leaf _ _ ih =>
    rw [List.forall_mem_cons] at packable counted
    rw [leafSum_cons, ← Int.add_assoc] at safe ⊢
    have others := leafSum_nonneg counted.2
    refine .leaf packable.1 ?_ (ih packable.2 counted.2 (by omega) safe)
    simp only [Binary64.isSafe, decide_eq_true_eq]
    omega

end Registry

/-- A count is what it should be, unless both are beyond the safe integers. -/
def Faithful (count exact : Int) : Prop :=
  count = exact ∨ Binary64.maxSafe < count ∧ Binary64.maxSafe < exact

/-- Adding widths keeps a count faithful: rounding does not lead back among the safe integers. -/
theorem Faithful.add {count exact width leaf : Int} (h : Faithful count exact)
    (h' : Faithful width leaf) (start : 0 ≤ exact) (counted : 0 ≤ leaf) :
    Faithful (Binary64.nearest (count + width)) (exact + leaf) := by
  unfold Faithful at h h' ⊢
  by_cases large : Binary64.maxSafe < count + width
  · have rounded := Binary64.maxSafe_lt_nearest large
    omega
  · have safe : Binary64.isSafe (count + width) = true := by
      simp only [Binary64.isSafe, decide_eq_true_eq]
      omega
    rw [Binary64.nearest_of_isSafe safe]
    omega

namespace Registry

variable {types : Registry} {source leaves leaves' : List NativeType} {fields fields' : Fields}

/-- Where no leaf has a negative width, types are as wide together as their leaves, unless that is
more than can be counted. -/
theorem Inlines.faithful (sound : types.Sound) (h : types.Inlines source leaves)
    (counted : ∀ leaf ∈ leaves, 0 ≤ leaf.leafWidth) {widths : List Int}
    (measured : List.Forall₂ types.HasWidth source widths) {count exact : Int}
    (before : Faithful count exact) (start : 0 ≤ exact) :
    Faithful (roundedSum count widths) (exact + leafSum leaves) := by
  induction h generalizing widths count exact with
  | nil =>
    cases measured
    simpa [roundedSum] using before
  | ref found _ ih =>
    obtain ⟨width, widths, first, others, rfl⟩ := List.forall₂_cons_left_iff.mp measured
    exact ih counted (.cons ((sound.hasWidth_ref_iff found).mp first) others) before start
  | packed _ _ ihNested ihOthers =>
    obtain ⟨width, widths, first, others, rfl⟩ := List.forall₂_cons_left_iff.mp measured
    obtain ⟨inner, nested, rfl⟩ := hasWidth_packed_iff.mp first
    rw [List.forall_mem_append] at counted
    have own := ihNested counted.1 (haveWidths_iff_fieldTypes.mp nested) (.inl rfl) le_rfl
    rw [Int.zero_add] at own
    have nonneg := leafSum_nonneg counted.1
    rw [leafSum_append, ← Int.add_assoc]
    exact ihOthers counted.2 others (before.add own start nonneg) (by omega)
  | leaf ends _ ih =>
    obtain ⟨width, widths, first, others, rfl⟩ := List.forall₂_cons_left_iff.mp measured
    obtain ⟨-, rfl⟩ := (hasWidth_leaf_iff ends).mp first
    rw [List.forall_mem_cons] at counted
    rw [leafSum_cons, ← Int.add_assoc]
    exact ih counted.2 others (before.add (.inl rfl) start counted.1) (by omega)

/-! ## Widths of structs -/

/-- No leaf of fields has a negative width. -/
def Counted (types : Registry) (fields : Fields) : Prop :=
  ∀ leaves, types.Inlines (fieldTypes fields) leaves → ∀ leaf ∈ leaves, 0 ≤ leaf.leafWidth

/-- The width of a packed struct is that of its leaves together: it has one exactly if all of them
are packable, and it is their sum as long as the total stays safe. Where no leaf has a negative
width, the total stays safe exactly if the sum is safe, and only then is the width that is found. -/
structure MeasuredBy (types : Registry) (fields : Fields) (leaves : List NativeType) : Prop where
  isOk_iff : ∀ context, (∃ width, types.packedFieldsWidth fields context = .ok width) ↔
    ∀ leaf ∈ leaves, leaf.isPackable = true
  exact : types.StaysSafe fields →
    ∀ context, types.packedFieldsWidth fields context = .ok (leafSum leaves)
  staysSafe_iff : types.Counted fields → (types.StaysSafe fields ↔
    (∀ leaf ∈ leaves, leaf.isPackable = true) ∧ leafSum leaves ≤ Binary64.maxSafe)
  isSafe_iff : types.Counted fields → ∀ context width,
    types.packedFieldsWidth fields context = .ok width →
      (width ≤ Binary64.maxSafe ↔ leafSum leaves ≤ Binary64.maxSafe)

theorem Inlines.measuredBy (sound : types.Sound) (h : types.Inlines (fieldTypes fields) leaves) :
    types.MeasuredBy fields leaves where
  isOk_iff context := by
    rw [← h.haveWidths_iff sound]
    simp only [packedFieldsWidth_eq_ok_iff, haveWidths_iff_fieldTypes]
    constructor
    · rintro ⟨_, widths, measured, -⟩
      exact ⟨widths, measured⟩
    · rintro ⟨widths, measured⟩
      exact ⟨_, widths, measured, rfl⟩
  exact := by
    rintro ⟨total, adds⟩ context
    obtain ⟨widths, measured, rfl⟩ := adds.roundedSum_eq sound
    have sum := adds.eq_sum h
    rw [Int.zero_add] at sum
    exact packedFieldsWidth_eq_ok_iff.mpr
      ⟨widths, haveWidths_iff_fieldTypes.mpr measured, sum.symm⟩
  staysSafe_iff counted := by
    constructor
    · rintro ⟨total, adds⟩
      obtain ⟨widths, measured, -⟩ := adds.roundedSum_eq sound
      have sum := adds.eq_sum h
      have safe := adds.isSafe rfl
      simp only [Binary64.isSafe, decide_eq_true_eq] at safe
      exact ⟨(h.haveWidths_iff sound).mp ⟨widths, measured⟩, by omega⟩
    · rintro ⟨packable, safe⟩
      exact ⟨_, h.countsTo packable (counted leaves h) le_rfl (by omega)⟩
  isSafe_iff counted context width found := by
    obtain ⟨widths, measured, rfl⟩ := packedFieldsWidth_eq_ok_iff.mp found
    have faithful := h.faithful sound (counted leaves h) (haveWidths_iff_fieldTypes.mp measured)
      (.inl rfl) le_rfl
    rw [Int.zero_add] at faithful
    unfold Faithful at faithful
    omega

/-- Two packed structs have the same width. One of them has a width if the other does, and both
are the same as long as neither total leaves the safe integers. Where no leaf has a negative width,
neither does if one does not. -/
structure MeasuredAlike (types : Registry) (fields fields' : Fields) : Prop where
  isOk_iff : ∀ context context', (∃ width, types.packedFieldsWidth fields context = .ok width) ↔
    ∃ width, types.packedFieldsWidth fields' context' = .ok width
  eq : types.StaysSafe fields → types.StaysSafe fields' → ∀ context context',
    types.packedFieldsWidth fields context = types.packedFieldsWidth fields' context'
  staysSafe_iff : types.Counted fields → (types.StaysSafe fields ↔ types.StaysSafe fields')

/-- Structs with the same leaves, in any order, have the same width. -/
theorem Inlines.measuredAlike (sound : types.Sound) (h : types.Inlines (fieldTypes fields) leaves)
    (h' : types.Inlines (fieldTypes fields') leaves') (same : leaves.Perm leaves') :
    types.MeasuredAlike fields fields' where
  isOk_iff context context' := by
    rw [(h.measuredBy sound).isOk_iff, (h'.measuredBy sound).isOk_iff]
    simp only [same.mem_iff]
  eq safe safe' context context' := by
    rw [(h.measuredBy sound).exact safe, (h'.measuredBy sound).exact safe', leafSum_perm same]
  staysSafe_iff counted := by
    have counted' : types.Counted fields' := fun leaves'' h'' leaf mem =>
      counted leaves h leaf (same.mem_iff.mpr (h'.unique h'' ▸ mem))
    rw [(h.measuredBy sound).staysSafe_iff counted, (h'.measuredBy sound).staysSafe_iff counted',
      leafSum_perm same]
    simp only [same.mem_iff]

/-- The width of a packed struct is that of its first fields and that of the others together. Where
no leaf has a negative width, the total of the others stays safe if that of all does. -/
structure MeasuredInParts (types : Registry) (before after : Fields) : Prop where
  isOk_iff : ∀ context,
    (∃ width, types.packedFieldsWidth (before ++ after) context = .ok width) ↔
      (∃ width, types.packedFieldsWidth before context = .ok width) ∧
        ∃ width, types.packedFieldsWidth after context = .ok width
  add : types.StaysSafe (before ++ after) → types.StaysSafe after → ∀ context,
    ∃ first second, types.packedFieldsWidth before context = .ok first ∧
      types.packedFieldsWidth after context = .ok second ∧
      types.packedFieldsWidth (before ++ after) context = .ok (first + second)
  staysSafe : types.Counted (before ++ after) →
    types.StaysSafe (before ++ after) → types.StaysSafe after

theorem Inlines.measuredInParts (sound : types.Sound) {before after : Fields}
    (h : types.Inlines (fieldTypes (before ++ after)) leaves) :
    types.MeasuredInParts before after := by
  obtain ⟨first, second, rfl, left, right⟩ := split (fieldTypes_append before after ▸ h)
  constructor
  case isOk_iff =>
    intro context
    rw [(h.measuredBy sound).isOk_iff, (left.measuredBy sound).isOk_iff,
      (right.measuredBy sound).isOk_iff, List.forall_mem_append]
  case add =>
    rintro safe safeAfter context
    have safeBefore : types.StaysSafe before := by
      obtain ⟨total, adds⟩ := safe
      rw [fieldTypes_append] at adds
      exact adds.first
    refine ⟨_, _, (left.measuredBy sound).exact safeBefore context,
      (right.measuredBy sound).exact safeAfter context, ?_⟩
    rw [(h.measuredBy sound).exact safe, leafSum_append]
  case staysSafe =>
    intro counted safe
    have nonneg := counted _ h
    rw [List.forall_mem_append] at nonneg
    have countedAfter : types.Counted after := fun leaves' h' => right.unique h' ▸ nonneg.2
    obtain ⟨packable, sum⟩ := ((h.measuredBy sound).staysSafe_iff counted).mp safe
    rw [List.forall_mem_append] at packable
    rw [leafSum_append] at sum
    have := leafSum_nonneg nonneg.1
    exact ((right.measuredBy sound).staysSafe_iff countedAfter).mpr ⟨packable.2, by omega⟩

/-- A reference counts as what it names, wherever it stands. -/
theorem Sound.packedFieldsWidth_ref (sound : types.Sound) {name : String} {d : Declaration}
    (found : types.find? name = some d) {f : Field NativeType} (mention : f.type = .ref name)
    (before after : Fields) (context : String) :
    types.packedFieldsWidth (before ++ f :: after) context =
      types.packedFieldsWidth (before ++ { f with type := d.type } :: after) context := by
  obtain ⟨fieldName, type, reserved⟩ := f
  obtain rfl := mention
  have same := sound.packedWidth_ref found (context ++ "." ++ fieldName)
  unfold packedWidth at same
  unfold packedFieldsWidth
  generalize (0 : Int) = count
  induction before generalizing count with
  | nil => simp only [List.nil_append, packedFieldsWidthWith, same]
  | cons first before ih => simp only [List.cons_append, packedFieldsWidthWith, ih]

/-- Inlining the fields of a packed struct always ends at one list of leaves, and the width of the
struct is that of the leaves together. So it does not depend on the order of the fields, it is the
sum of those of two parts, and it stays the same if the fields of a nested packed struct take the
place of the struct, or the type that a reference names that of the reference. -/
theorem packedFieldsWidth_leaves {declarations : List Declaration}
    (accepted : build declarations = .ok types) (valid : ∀ f ∈ fields, f.type.WellFormed types) :
    ∃ leaves, types.Inlines (fieldTypes fields) leaves ∧
      (∀ leaves', types.Inlines (fieldTypes fields) leaves' → leaves' = leaves) ∧
      types.MeasuredBy fields leaves ∧
      (∀ fields', fields.Perm fields' → types.MeasuredAlike fields fields') ∧
      (∀ before after, fields = before ++ after → types.MeasuredInParts before after) ∧
      (∀ before f after r inner, fields = before ++ f :: after → types.ResolvesTo f.type r →
        r.type = .struct .packed inner →
          types.MeasuredAlike fields (before ++ inner ++ after)) ∧
      (∀ before f after name d, fields = before ++ f :: after → f.type = .ref name →
        types.find? name = some d → ∀ context, types.packedFieldsWidth fields context =
          types.packedFieldsWidth (before ++ { f with type := d.type } :: after) context) := by
  have sound := sound_of_build accepted
  obtain ⟨leaves, inlined⟩ := sound.exists_inlines valid
  refine ⟨leaves, inlined, fun _ => inlined.unique, inlined.measuredBy sound, ?order, ?parts,
    ?nested, ?reference⟩
  case order =>
    intro fields' reordered
    obtain ⟨leaves', same, inlined'⟩ := inlined.perm (reordered.map _)
    exact inlined.measuredAlike sound inlined' same
  case parts =>
    rintro before after rfl
    exact inlined.measuredInParts sound
  case nested =>
    rintro before f after r inner rfl ends struct
    have whole : types.Inlines (fieldTypes before ++ [f.type] ++ fieldTypes after) leaves := by
      simpa [fieldTypes] using inlined
    have replaced : types.Inlines (fieldTypes (before ++ inner ++ after)) leaves := by
      rw [fieldTypes_append, fieldTypes_append]
      exact whole.replace fun _ => .fieldTypes_of_resolvesTo ends struct
    exact inlined.measuredAlike sound replaced .rfl
  case reference =>
    rintro before f after name d rfl mention found context
    exact sound.packedFieldsWidth_ref found mention before after context

/-- An enum, and a packed struct that holds it beside a flag. -/
def linkTypes : Registry where
  declarations := [⟨"kind_t", .enum 2 [⟨"a", 0⟩, ⟨"b", 1⟩]⟩,
    ⟨"inner_t", .struct .packed [⟨"x", .bool, false⟩, ⟨"kind", .ref "kind_t", false⟩]⟩]
  distinct := by decide

/-- Fields of a packed struct that holds another. -/
def linkFields : Fields :=
  [⟨"linked", .bool, false⟩, ⟨"inner", .ref "inner_t", false⟩, ⟨"padding", .int 12 false, false⟩]

theorem linkFields_inlines : linkTypes.Inlines (fieldTypes linkFields)
    (.bool :: ([.bool, .enum 2 [⟨"a", 0⟩, ⟨"b", 1⟩]] ++ [.int 12 false])) :=
  .leaf rfl (.ref rfl (.packed (.leaf rfl (.ref rfl (.leaf rfl .nil))) (.leaf rfl .nil)))

theorem packedFieldsWidth_leaves_linkFields : build linkTypes.declarations = .ok linkTypes ∧
    (∀ f ∈ linkFields, f.type.WellFormed linkTypes) ∧
    linkTypes.packedFieldsWidth linkFields "flags_t" = .ok 16 ∧
    linkTypes.packedFieldsWidth linkFields.reverse "flags_t" = .ok 16 := by
  have accepted : build linkTypes.declarations = .ok linkTypes := rfl
  have valid : ∀ f ∈ linkFields, f.type.WellFormed linkTypes := by
    simp [linkFields, NativeType.WellFormed, has, names, linkTypes]
  obtain ⟨leaves, inlined, unique, measured, reordered, -⟩ :=
    packedFieldsWidth_leaves accepted valid
  obtain rfl := unique _ linkFields_inlines
  have counted : linkTypes.Counted linkFields := fun leaves' h' => by
    rw [unique leaves' h']
    decide
  have safe := (measured.staysSafe_iff counted).mpr (by decide)
  have alike := reordered linkFields.reverse linkFields.reverse_perm.symm
  have safe' := (alike.staysSafe_iff counted).mp safe
  have width := measured.exact safe "flags_t"
  exact ⟨accepted, valid, width, alike.eq safe safe' "flags_t" "flags_t" ▸ width⟩

end Registry
end NativeBindings
