import NativeBindings.Lowering
import NativeBindings.Proofs.ValueGraph
import Mathlib.Algebra.Ring.Int.Defs
import Mathlib.Data.Finset.Card

/-!
# Sound registries

What the rules for declarations promise to everything that runs after them. A registry is sound
(`Registry.Sound`) if every declaration satisfies its rules and none holds itself by value; the
registries that are built are the sound ones (`sound_of_build`).

* `Check.type_eq_ok_iff`: the types that pass are the well-formed ones, whose references are
  declared, also behind pointers, and in which no enum or struct is nested.
* `Registry.height` counts what a declaration holds by value. It drops along every reference
  (`Sound.height_lt`) and stays below the number of declarations (`Sound.height_lt_size`), which is
  why no walk along references is ever cut short.
* `Sound.held_induction`: what holds of a declaration whenever it holds of everything that it holds
  by value, holds of every declared name.
* `Sound.resolve_isOk`: following aliases always ends, and never at a name that came before.
-/
namespace NativeBindings

open Relation

/-! ## Well-formed types -/

/-- The counts are the positive integers that are exact as doubles. -/
theorem Check.isPositiveCount_iff {n : Int} :
    isPositiveCount n = true ↔ 1 ≤ n ∧ n ≤ Binary64.maxSafe := by
  simp only [isPositiveCount, Binary64.isSafe, Bool.and_eq_true, decide_eq_true_eq]
  omega

/-- A type that may stand inside a declaration: its references are declared, its arrays have
positive lengths, and enums and structs are only mentioned. -/
def NativeType.WellFormed (types : Registry) : NativeType → Prop
  | .ref name => types.has name = true
  | .array element length => Check.isPositiveCount length = true ∧ element.WellFormed types
  | .pointer pointee _ => pointee.WellFormed types
  | .enum _ _ => False
  | .struct _ _ => False
  | _ => True

theorem Check.type_eq_ok_iff {types : Registry} {type : NativeType} {context : String} :
    Check.type types type context = .ok () ↔ type.WellFormed types := by
  fun_induction Check.type types type context <;> simp_all [NativeType.WellFormed]

/-- Which types are well formed depends on which names are declared, and on nothing else. -/
theorem NativeType.wellFormed_congr {types types' : Registry}
    (same : ∀ name, types'.has name = types.has name) (type : NativeType) :
    type.WellFormed types' ↔ type.WellFormed types := by
  fun_induction NativeType.WellFormed types type <;> simp_all [NativeType.WellFormed]

/-- What a well-formed type holds by value is declared. -/
theorem NativeType.WellFormed.has_of_embeds {types : Registry} {type : NativeType} {name : String}
    (h : type.WellFormed types) (mention : type.Embeds name) : types.has name = true := by
  induction mention with
  | ref name => exact h
  | array length _ ih => exact ih h.2
  | field layout _ _ _ => exact h.elim

/-- The fields that pass have well-formed types and names that are new. -/
theorem Check.fields_eq_ok_iff {types : Registry} {owner : String} {seen : List String}
    {members : Fields} : Check.fields types owner seen members = .ok () ↔
      (∀ f ∈ members, f.type.WellFormed types ∧ f.name ∉ seen) ∧
        (members.map (·.name)).Nodup := by
  induction members generalizing seen with
  | nil => simp [Check.fields]
  | cons field rest ih =>
    rw [Check.fields]
    by_cases old : field.name ∈ seen
    · simp [old]
    · rw [if_neg old, check_bind_eq_ok]
      simp only [Check.type_eq_ok_iff, ih, List.mem_append, List.mem_singleton, not_or,
        List.forall_mem_cons, List.map_cons, List.nodup_cons, List.mem_map, not_exists, not_and]
      constructor
      · rintro ⟨first, others, distinct⟩
        exact ⟨⟨⟨first, old⟩, fun f hf => ⟨(others f hf).1, (others f hf).2.1⟩⟩,
          fun f hf => (others f hf).2.2, distinct⟩
      · rintro ⟨⟨⟨first, -⟩, others⟩, fresh, distinct⟩
        exact ⟨first, fun f hf => ⟨(others f hf).1, (others f hf).2, fresh f hf⟩, distinct⟩

/-- A discriminant fits a tag exactly if it is below the power of two. -/
theorem Check.fitsTag_iff {tagBits value : Int} :
    fitsTag tagBits value = true ↔ 0 ≤ value ∧ value < 2 ^ tagBits.toNat := by
  simp only [fitsTag, Bool.and_eq_true, Bool.or_eq_true, decide_eq_true_eq, beq_iff_eq]
  refine and_congr_right fun nonneg => ?_
  lift value to Nat using nonneg
  rcases Nat.eq_zero_or_pos value with rfl | positive
  · have power : (0 : Int) < 2 ^ tagBits.toNat := Int.pow_pos (by decide)
    simp [power]
  · have bits : (value.log2 : Int) < tagBits ↔ value.log2 < tagBits.toNat := by omega
    have below : ((value : Int) < 2 ^ tagBits.toNat) ↔ value < 2 ^ tagBits.toNat := by
      exact_mod_cast Iff.rfl
    rw [below, ← Nat.log2_lt positive.ne', ← bits, Int.toNat_natCast]
    exact or_iff_right (by omega)

/-- The variants that pass fit the tag, and have names and values that are new. -/
theorem Check.variants_eq_ok_iff {owner : String} {tagBits : Int} {seen members : List Variant} :
    variants owner tagBits seen members = .ok () ↔
      (∀ v ∈ members, fitsTag tagBits v.value = true ∧ v.name ∉ seen.map (·.name) ∧
        v.value ∉ seen.map (·.value)) ∧
      (members.map (·.name)).Nodup ∧ (members.map (·.value)).Nodup := by
  induction members generalizing seen with
  | nil => simp [variants]
  | cons member rest ih =>
    rw [variants, List.forall_mem_cons]
    by_cases twice : seen.any (·.name == member.name) = true
    · have old : member.name ∈ seen.map (·.name) := by simpa using twice
      simp only [twice, old, if_true, not_true, false_and, and_false, reduceCtorEq]
    rw [if_neg twice]
    by_cases narrow : fitsTag tagBits member.value = true
    · rw [if_neg (by simp [narrow])]
      have new : member.name ∉ seen.map (·.name) := by simpa using twice
      cases found : seen.find? (·.value == member.value) with
      | some first =>
        have old : member.value ∈ seen.map (·.value) := by
          have same : first.value = member.value := by simpa using List.find?_some found
          exact same ▸ List.mem_map_of_mem (List.mem_of_find?_eq_some found)
        simp only [old, not_true, false_and, and_false, reduceCtorEq]
      | none =>
        have newValue : member.value ∉ seen.map (·.value) := by simpa using found
        simp only [ih, narrow, new, newValue, List.map_append, List.map_cons, List.map_nil,
          List.mem_append, List.mem_singleton, not_or, List.nodup_cons, List.mem_map, not_exists,
          not_and, not_false_eq_true, true_and]
        constructor
        · rintro ⟨others, names, values⟩
          exact ⟨fun v hv => ⟨(others v hv).1, (others v hv).2.1.1, (others v hv).2.2.1⟩,
            ⟨fun v hv => (others v hv).2.1.2, names⟩, fun v hv => (others v hv).2.2.2, values⟩
        · rintro ⟨others, ⟨freshName, names⟩, freshValue, values⟩
          exact ⟨fun v hv => ⟨(others v hv).1, ⟨(others v hv).2.1, freshName v hv⟩,
            (others v hv).2.2, freshValue v hv⟩, names, values⟩
    · simp only [narrow, Bool.not_false, if_true, reduceCtorEq, false_and]

namespace Check

variable {types types' : Registry} {d d' : Declaration}

theorem declaration_eq_ok_iff_of_structural (structural : d.type.isNominal = false) :
    declaration types d = .ok () ↔ d.type.WellFormed types := by
  unfold declaration
  split
  · rename_i struct
    simp [struct, NativeType.isNominal] at structural
  · rename_i enum
    simp [enum, NativeType.isNominal] at structural
  · exact type_eq_ok_iff

/-- A struct passes exactly if the types of its fields are well formed and their names distinct. -/
theorem declaration_eq_ok_iff_of_struct {layout : Layout} {members : Fields}
    (struct : d.type = .struct layout members) : declaration types d = .ok () ↔
      (∀ f ∈ members, f.type.WellFormed types) ∧ (members.map (·.name)).Nodup := by
  simp only [declaration, struct, fields_eq_ok_iff, List.not_mem_nil, not_false_eq_true, and_true]

theorem variants_eq_ok_iff_of_owner {owner owner' : String} {tagBits : Int}
    {seen members : List Variant} : variants owner tagBits seen members = .ok () ↔
      variants owner' tagBits seen members = .ok () := by
  rw [variants_eq_ok_iff, variants_eq_ok_iff]

/-- An enum passes exactly if its tag is of a positive and manageable width and it has variants,
which pass. -/
theorem declaration_enum_eq_ok_iff {tagBits : Int} {members : List Variant}
    (enum : d.type = .enum tagBits members) : declaration types d = .ok () ↔
      isPositiveCount tagBits = true ∧ members ≠ [] ∧ tagBits ≤ maxTagBits ∧
        variants d.name tagBits [] members = .ok () := by
  simp only [declaration, enum]
  by_cases positive : isPositiveCount tagBits = true
  · by_cases none : members = []
    · simp [positive, none]
    · by_cases wide : (maxTagBits : Int) < tagBits
      · simp [positive, none, wide]
      · simp [positive, none, wide, Int.not_lt.mp wide]
  · simp [positive]

/-- Whether an enum passes depends on nothing around it. -/
theorem declaration_eq_ok_iff_of_enum {tagBits : Int} {members : List Variant}
    (enum : d.type = .enum tagBits members) (enum' : d'.type = .enum tagBits members) :
    declaration types d = .ok () ↔ declaration types' d' = .ok () := by
  rw [declaration_enum_eq_ok_iff enum, declaration_enum_eq_ok_iff enum',
    variants_eq_ok_iff_of_owner]

end Check

/-- A change of types that keeps enums, changes structs field by field, and keeps aliases
aliases. -/
structure NativeType.ActsInside (ψ : NativeType → NativeType) : Prop where
  enum : ∀ tagBits variants, ψ (.enum tagBits variants) = .enum tagBits variants
  struct : ∀ layout fields,
    ψ (.struct layout fields) = .struct layout (fields.map fun f => { f with type := ψ f.type })
  isNominal : ∀ type, (ψ type).isNominal = type.isNominal

theorem NativeType.id_actsInside : ActsInside id where
  enum _ _ := rfl
  struct layout fields := by
    show NativeType.struct layout fields = .struct layout (fields.map id)
    rw [List.map_id]
  isNominal _ := rfl

/-- A change inside declarations that keeps types well formed keeps declarations valid. -/
theorem Check.declaration_eq_ok_iff_of_actsInside {types types' : Registry} {d d' : Declaration}
    {ψ : NativeType → NativeType} (acts : NativeType.ActsInside ψ) (changed : d'.type = ψ d.type)
    (wellFormed : ∀ type, (ψ type).WellFormed types' ↔ type.WellFormed types) :
    declaration types' d' = .ok () ↔ declaration types d = .ok () := by
  cases nominal : d.type.isNominal with
  | false =>
    have nominal' : d'.type.isNominal = false := by rw [changed, acts.isNominal, nominal]
    rw [declaration_eq_ok_iff_of_structural nominal, declaration_eq_ok_iff_of_structural nominal',
      changed]
    exact wellFormed d.type
  | true =>
    cases htype : d.type with
    | enum tagBits members =>
      rw [htype, acts.enum] at changed
      exact declaration_eq_ok_iff_of_enum changed htype
    | struct layout members =>
      rw [htype, acts.struct] at changed
      rw [declaration_eq_ok_iff_of_struct changed, declaration_eq_ok_iff_of_struct htype]
      simp [wellFormed, Function.comp_def]
    | _ => simp [htype, NativeType.isNominal] at nominal

namespace Registry

/-- Every declaration satisfies its rules, and none holds itself by value. -/
structure Sound (types : Registry) : Prop where
  checked : ∀ d ∈ types.declarations, Check.declaration types d = .ok ()
  acyclic : types.Acyclic

theorem sound_of_build {declarations : List Declaration} {types : Registry}
    (h : build declarations = .ok types) : types.Sound := by
  obtain ⟨-, checked, acyclic⟩ := build_eq_ok_iff.mp h
  exact ⟨all_eq_ok_iff.mp checked, acyclic⟩

variable {types : Registry}

/-- The declarations that a registry is built of satisfy their rules. -/
theorem checked_of_build {declarations : List Declaration} (h : build declarations = .ok types)
    {d : Declaration} (declared : d ∈ declarations) : Check.declaration types d = .ok () := by
  obtain ⟨rfl, checked, -⟩ := build_eq_ok_iff.mp h
  exact all_eq_ok_iff.mp checked d declared

theorem struct_of_build {declarations : List Declaration} (h : build declarations = .ok types)
    {d : Declaration} (declared : d ∈ declarations) {layout : Layout} {fields : Fields}
    (struct : d.type = .struct layout fields) :
    (∀ f ∈ fields, f.type.WellFormed types) ∧ (fields.map (·.name)).Nodup :=
  (Check.declaration_eq_ok_iff_of_struct struct).mp (checked_of_build h declared)

namespace Sound

theorem checked_of_find? (sound : types.Sound) {name : String} {d : Declaration}
    (h : types.find? name = some d) : Check.declaration types d = .ok () :=
  sound.checked d (find?_eq_some_iff.mp h).1

theorem field_wellFormed (sound : types.Sound) {name : String} {d : Declaration} {layout : Layout}
    {fields : Fields} (h : types.find? name = some d) (struct : d.type = .struct layout fields) :
    ∀ f ∈ fields, f.type.WellFormed types :=
  ((Check.declaration_eq_ok_iff_of_struct struct).mp (sound.checked_of_find? h)).1

theorem alias_wellFormed (sound : types.Sound) {name : String} {d : Declaration}
    (h : types.find? name = some d) (structural : d.type.isNominal = false) :
    d.type.WellFormed types :=
  (Check.declaration_eq_ok_iff_of_structural structural).mp (sound.checked_of_find? h)

theorem held_declared (sound : types.Sound) {a b : String} (h : types.HoldsByValue a b) :
    types.has b = true := by
  obtain ⟨d, hd, mention⟩ := h
  rw [NativeType.mem_valueRefs_iff] at mention
  cases nominal : d.type.isNominal with
  | false => exact (sound.alias_wellFormed hd nominal).has_of_embeds mention
  | true =>
    cases hstruct : d.type with
    | struct layout fields =>
      rw [hstruct] at mention
      cases mention with
      | field layout hf inner => exact (sound.field_wellFormed hd hstruct _ hf).has_of_embeds inner
    | enum tagBits variants => rw [hstruct] at mention; cases mention
    | _ => simp [hstruct, NativeType.isNominal] at nominal

end Sound

/-! ## Height -/

open Classical in
/-- The number of declarations that a name holds by value, directly or through others. -/
noncomputable def height (types : Registry) (name : String) : Nat :=
  (types.names.toFinset.filter fun held => TransGen types.HoldsByValue name held).card

theorem Sound.height_lt (sound : types.Sound) {a b : String} (h : types.HoldsByValue a b) :
    types.height b < types.height a := by
  classical
  refine Finset.card_lt_card (Finset.ssubset_iff_of_subset ?_ |>.mpr ⟨b, ?_, ?_⟩)
  · intro c hc
    simp only [Finset.mem_filter] at hc ⊢
    exact ⟨hc.1, .head h hc.2⟩
  · have declared := List.contains_iff_mem.mp (sound.held_declared h)
    simpa using ⟨declared, .single h⟩
  · simpa using fun _ => sound.acyclic b

theorem Sound.height_lt_size (sound : types.Sound) {name : String} (h : types.has name = true) :
    types.height name < types.size := by
  classical
  have declared := List.contains_iff_mem.mp h
  have fewer : types.height name < types.names.toFinset.card := by
    refine Finset.card_lt_card (Finset.filter_ssubset.mpr ⟨name, ?_, sound.acyclic name⟩)
    simpa using declared
  have all : types.names.toFinset.card ≤ types.size := by
    simpa [names, size] using types.names.toFinset_card_le
  omega

/-- Everything that a type holds by value is declared and lower than a bound. -/
def Bounded (types : Registry) (bound : Nat) (type : NativeType) : Prop :=
  ∀ name ∈ type.valueRefs, types.has name = true ∧ types.height name < bound

theorem Sound.bounded_of_wellFormed (sound : types.Sound) {type : NativeType}
    (h : type.WellFormed types) : types.Bounded types.size type := by
  intro name mention
  have declared := h.has_of_embeds (NativeType.mem_valueRefs_iff.mp mention)
  exact ⟨declared, sound.height_lt_size declared⟩

theorem Sound.bounded_of_find? (sound : types.Sound) {name : String} {d : Declaration}
    (h : types.find? name = some d) : types.Bounded (types.height name) d.type := by
  intro held mention
  have edge : types.HoldsByValue name held := ⟨d, h, mention⟩
  exact ⟨sound.held_declared edge, sound.height_lt edge⟩

/-- Induction along references: what holds of a declaration whenever it holds, one step shallower,
of everything the declaration holds by value, holds of every name at a depth above its height. -/
theorem Sound.reference_induction (sound : types.Sound) {holds : Nat → String → Prop}
    (step : ∀ (depth : Nat) (name : String) (d : Declaration), types.find? name = some d →
      (∀ held ∈ d.type.valueRefs, holds depth held) → holds (depth + 1) name) :
    ∀ (depth : Nat) (name : String), types.has name = true → types.height name < depth →
      holds depth name := by
  intro depth
  induction depth with
  | zero => intro name _ low; omega
  | succ depth ih =>
    intro name declared low
    obtain ⟨d, hd⟩ := find?_of_has declared
    refine step depth name d hd fun held mention => ?_
    obtain ⟨declared', low'⟩ := sound.bounded_of_find? hd held mention
    exact ih held declared' (by omega)

/-- Induction over declared names: what holds of a declaration whenever it holds of everything the
declaration holds by value, holds of every declared name. -/
@[elab_as_elim]
theorem Sound.held_induction (sound : types.Sound) {motive : String → Prop} (name : String)
    (declared : types.has name = true)
    (step : ∀ (name : String) (d : Declaration), types.find? name = some d →
      (∀ held ∈ d.type.valueRefs, motive held) → motive name) : motive name :=
  @reference_induction types sound (fun _ => motive) (fun _ => step) (types.height name + 1) name
    declared (Nat.lt_succ_self _)

theorem Bounded.mono {type : NativeType} {bound bound' : Nat} (h : types.Bounded bound type)
    (le : bound ≤ bound') : types.Bounded bound' type :=
  fun name mention => ⟨(h name mention).1, Nat.lt_of_lt_of_le (h name mention).2 le⟩

/-! ## Following aliases -/

/-- The walk along aliases ends: `seen` holds what it ends at by value, so no name comes again, and
the depth that is left is more than the height of what is next. -/
theorem Sound.resolveFrom_isOk (sound : types.Sound) : ∀ (depth : Nat) (seen : List String)
    (type : NativeType), types.Bounded depth type →
    (∀ a ∈ seen, ∀ b ∈ type.valueRefs, TransGen types.HoldsByValue a b) →
    ∃ resolved, types.resolveFrom depth seen type = .ok resolved := by
  intro depth
  induction depth with
  | zero =>
    intro seen type bounded _
    cases type with
    | ref name => simpa using (bounded name (by simp [NativeType.valueRefs])).2
    | _ => exact ⟨_, resolveFrom_end fun name h => by cases h⟩
  | succ depth ih =>
    intro seen type bounded behind
    cases type with
    | ref name =>
      have mention : name ∈ (NativeType.ref name).valueRefs := by simp [NativeType.valueRefs]
      have fresh : name ∉ seen := fun again => sound.acyclic name (behind name again name mention)
      obtain ⟨declared, low⟩ := bounded name mention
      obtain ⟨d, hd⟩ := find?_of_has declared
      obtain ⟨resolved, rest⟩ := ih (name :: seen) d.type
        ((sound.bounded_of_find? hd).mono (by omega)) (by
          intro a ha b hb
          have edge : types.HoldsByValue name b := ⟨d, hd, hb⟩
          rcases List.mem_cons.mp ha with rfl | ha
          · exact .single edge
          · exact .tail (behind a ha name mention) edge)
      exact ⟨resolved, (resolveFrom_ref fresh hd).trans rest⟩
    | _ => exact ⟨_, resolveFrom_end fun name h => by cases h⟩

/-- Following the references of a well-formed type through aliases ends. -/
theorem Sound.resolve_isOk (sound : types.Sound) {type : NativeType} (h : type.WellFormed types) :
    ∃ resolved, types.resolve type = .ok resolved :=
  sound.resolveFrom_isOk _ [] type ((sound.bounded_of_wellFormed h).mono (Nat.le_succ _))
    (fun _ h => nomatch h)

end Registry
end NativeBindings
