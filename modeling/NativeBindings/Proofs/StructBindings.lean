import NativeBindings.Proofs.RepresentedTypes
import NativeBindings.Proofs.ReservedFlags

/-!
# Bindings of structs

A binding is put together on three walks over the fields of a struct: the checks and assignments of
the exposed fields, how they are read back, and the representations of all fields. Only the last one
can fail: a field that the others refuse has no representation either
(`StructBinding.build_isOk_iff`).

* `StructBinding.BuiltFrom.checks`: the fields that are checked are the exposed ones that end at an
  unsigned integer of another width than 128 bits, and each is checked against the width of its own
  representation (`BoundsCheck.Guards`).
* `StructBinding.binding_of_fields`: when there is a binding of a declared struct, and what is in
  it. Its layout stays as it is if nothing changes but which fields are reserved.
-/
namespace NativeBindings

/-! ## Checked fields -/

/-- The width that values of a type are checked against: that of an unsigned integer, unless it is
one of 128 bits. -/
def NativeType.checkedBits? : NativeType → Option Int
  | .int bits false => if bits = 128 then none else some bits
  | _ => none

/-- The type is an unsigned integer of another width than 128 bits, or an alias of one. -/
def Registry.EndsInNarrow (types : Registry) (type : NativeType) : Prop :=
  ∃ bits declaration, types.ResolvesTo type ⟨.int bits false, declaration⟩ ∧ bits ≠ 128

open Classical in
/-- The exposed fields that have a check. -/
noncomputable def Fields.checked (fields : Fields) (types : Registry) : Fields :=
  (Fields.exposed fields).filter (types.EndsInNarrow ·.type)

/-- A check is of a field, and against the width of its representation in the layout. -/
structure BoundsCheck.Guards (check : BoundsCheck) (b : StructBinding) (f : Field NativeType) :
    Prop where
  field : check.field = f.name
  bits : check.bits ∈ [8, 16, 32, 64]
  width : ∃ width : CtypeWidth, check.bits = width.bits ∧
    (Ctype.unsigned width).text = "ctypes.c_uint" ++ countText check.bits ∧
    ∀ ctype, (f.name, ctype) ∈ b.layout ↔ ctype = .unsigned width

theorem NativeType.checkedBits?_eq_some_iff {type : NativeType} {bits : Int} :
    type.checkedBits? = some bits ↔ type = .int bits false ∧ bits ≠ 128 := by
  cases type with
  | int bits' signed =>
    cases signed with
    | true => simp [checkedBits?]
    | false =>
      by_cases wide : bits' = 128
      · simp only [checkedBits?, wide, if_true, reduceCtorEq, false_iff, not_and, not_not]
        rintro same
        exact (NativeType.int.inj same).1.symm
      · simp only [checkedBits?, wide, if_false, Option.some.injEq, int.injEq, and_true]
        exact ⟨fun same => ⟨same, same ▸ wide⟩, And.left⟩
  | _ => simp [checkedBits?]

theorem Registry.ResolvesTo.endsInNarrow_iff {types : Registry} {type : NativeType} {r : Resolved}
    (h : types.ResolvesTo type r) :
    types.EndsInNarrow type ↔ ∃ bits, r.type.checkedBits? = some bits := by
  simp only [NativeType.checkedBits?_eq_some_iff]
  constructor
  · rintro ⟨bits, declaration, h', narrow⟩
    exact ⟨bits, congrArg Resolved.type (h.unique h'), narrow⟩
  · rintro ⟨bits, same, narrow⟩
    exact ⟨bits, r.declaration, same ▸ h, narrow⟩

theorem CtypeWidth.bits_mem_of_narrow {width : CtypeWidth} (narrow : width.bits ≠ 128) :
    width.bits ∈ [8, 16, 32, 64] := by
  cases width with
  | w128 => exact absurd rfl narrow
  | _ => decide

namespace StructBinding

variable {names : Names} {d : Declaration} {fields : Fields} {name owner : String}
  {withRecord : Bool} {b : StructBinding} {f : Field NativeType} {r : Resolved}

/-! ## One field -/

section Ends

variable (sound : names.types.Sound) (ends : names.types.ResolvesTo f.type r)
include sound ends

/-- A field is refused if it ends at a signed integer, and checked if it ends at an unsigned one. -/
theorem check?_eq_ok_iff {check : Option BoundsCheck} : check? names owner f = .ok check ↔
    (∀ bits, r.type ≠ .int bits true) ∧
      check = r.type.checkedBits?.map (BoundsCheck.mk f.name) := by
  have underlying : names.types.underlying f.type = .ok r.type := by
    rw [Registry.underlying, sound.resolve_of_resolvesTo ends]
    rfl
  rw [check?, underlying]
  generalize r.type = type
  cases type with
  | int bits signed =>
    cases signed with
    | true =>
      constructor
      · intro h
        cases h
      · intro h
        exact absurd rfl (h.1 bits)
    | false =>
      show pure (if bits = 128 then none else some ⟨f.name, bits⟩) = Except.ok check ↔ _
      rw [pure_eq_ok]
      by_cases wide : bits = 128
      · simp [NativeType.checkedBits?, wide, eq_comm]
      · simp [NativeType.checkedBits?, wide, eq_comm]
  | _ =>
    show pure none = Except.ok check ↔ _
    rw [pure_eq_ok]
    simp [NativeType.checkedBits?, eq_comm]

theorem store_isOk : ∃ stored, store names f = .ok stored := by
  rw [store, Names.isWide, Registry.underlying, sound.resolve_of_resolvesTo ends]
  exact ⟨_, rfl⟩

theorem restore_isOk : ∃ restored, restore names f = .ok restored := by
  rw [restore, sound.resolve_of_resolvesTo ends]
  simp only [Bind.bind, Except.bind]
  split
  · exact ⟨_, rfl⟩
  · exact ⟨_, rfl⟩

/-- A field that has a representation does not end at a signed integer. -/
theorem not_signed_of_ctype {context : String} {ctype : Ctype}
    (lowered : names.ctype f.type context = .ok ctype) (bits : Int) : r.type ≠ .int bits true := by
  intro signed
  obtain ⟨context', same⟩ := names.ctype_of_resolvesTo sound ends context
  rw [same, signed] at lowered
  cases lowered

omit sound ends in
theorem check?_of_checkAndStore {inward : Option BoundsCheck × String × Stored}
    (h : checkAndStore names owner f = .ok inward) : check? names owner f = .ok inward.1 := by
  simp only [checkAndStore, bind_eq_ok, pure_eq_ok] at h
  obtain ⟨check, checked, stored, -, rfl⟩ := h
  exact checked

/-- A field that has a representation can be assigned. -/
theorem checkAndStore_isOk {context : String} {ctype : Ctype}
    (lowered : names.ctype f.type context = .ok ctype) :
    ∃ inward, checkAndStore names owner f = .ok inward := by
  obtain ⟨stored, hstored⟩ := store_isOk sound ends
  have checked : check? names owner f = .ok _ :=
    (check?_eq_ok_iff sound ends).mpr ⟨not_signed_of_ctype sound ends lowered, rfl⟩
  exact ⟨_, bind_eq_ok.mpr ⟨_, checked, bind_eq_ok.mpr ⟨_, hstored, rfl⟩⟩⟩

end Ends

/-! ## All fields -/

/-- There is a binding of a struct exactly if every field has a representation. -/
theorem build_isOk_iff (sound : names.types.Sound)
    (wellFormed : ∀ f ∈ fields, f.type.WellFormed names.types)
    (struct : d.type = .struct .cAbi fields) (name : String) (withRecord : Bool)
    (context : String) : (∃ b, build names d name withRecord = .ok b) ↔
      ∀ f ∈ fields, ∃ ctype, names.ctype f.type context = .ok ctype := by
  constructor
  · rintro ⟨b, bound⟩ f hf
    obtain ⟨⟨name', ctype⟩, lowered⟩ := isOk_of_mapM (BuiltFrom.of_struct struct bound).layout hf
    have lowered := (layoutField_eq_ok_iff.mp lowered).2
    exact ⟨ctype, names.ctype_eq_ok_of_context sound (wellFormed f hf) context lowered⟩
  · intro lowered
    have ends : ∀ f ∈ Fields.exposed fields, ∃ r, names.types.ResolvesTo f.type r :=
      fun f hf => sound.exists_resolvesTo (wellFormed f (Fields.mem_of_mem_exposed hf))
    obtain ⟨inward, hinward⟩ : ∃ inward,
        (Fields.exposed fields).mapM (checkAndStore names d.name) = .ok inward :=
      mapM_isOk fun f hf => by
        obtain ⟨r, leads⟩ := ends f hf
        obtain ⟨ctype, represented⟩ := lowered f (Fields.mem_of_mem_exposed hf)
        exact checkAndStore_isOk sound leads represented
    -- The way back is built only on demand, and never fails.
    obtain ⟨restored, hrestored⟩ : ∃ restored, (if withRecord then
        some <$> (Fields.exposed fields).mapM (restore names) else pure none :
          Except Fault (Option (List (String × Restored)))) = .ok restored := by
      cases withRecord with
      | false => exact ⟨none, rfl⟩
      | true =>
        obtain ⟨outward, houtward⟩ := mapM_isOk fun f hf => by
          obtain ⟨r, leads⟩ := ends f hf
          exact restore_isOk sound leads
        exact ⟨_, map_eq_ok.mpr ⟨outward, houtward, rfl⟩⟩
    obtain ⟨layout, hlayout⟩ : ∃ layout, fields.mapM (layoutField names d.name) = .ok layout :=
      mapM_isOk fun f hf => by
        obtain ⟨ctype, represented⟩ := lowered f hf
        have represented := names.ctype_eq_ok_of_context sound (wellFormed f hf)
          s!"{d.name}.{f.name}" represented
        exact ⟨_, layoutField_eq_ok_iff.mpr ⟨rfl, represented⟩⟩
    rw [build_of_struct name withRecord struct]
    simp only [bind_eq_ok, pure_eq_ok]
    exact ⟨_, inward, hinward, restored, hrestored, layout, hlayout, rfl⟩

/-- What comes of the items that are kept. -/
theorem forall₂_filter_filterMap {α β γ : Type} {R : α → β → Prop} {S : α → γ → Prop}
    {keep : α → Bool} {pick : β → Option γ} {xs : List α} {ys : List β}
    (h : List.Forall₂ R xs ys) (step : ∀ x ∈ xs, ∀ y, R x y →
      (keep x = true ∧ ∃ z, pick y = some z ∧ S x z) ∨ (keep x = false ∧ pick y = none)) :
    List.Forall₂ S (xs.filter keep) (ys.filterMap pick) := by
  induction h with
  | nil => exact .nil
  | @cons x y xs ys first _ ih =>
    have rest := ih fun z hz => step z (List.mem_cons_of_mem x hz)
    rcases step x List.mem_cons_self y first with ⟨kept, z, picked, related⟩ | ⟨left, unpicked⟩
    · rw [List.filter_cons_of_pos kept, List.filterMap_cons_some picked]
      exact .cons related rest
    · rw [List.filter_cons_of_neg (by simp [left]), List.filterMap_cons_none unpicked]
      exact rest

/-- An entry of a layout is of a field, with the representation that the field's type has wherever
it stands. -/
structure IsEntry (names : Names) (f : Field NativeType) (entry : String × Ctype) : Prop where
  name : entry.1 = f.name
  ctype : ∀ context, names.ctype f.type context = .ok entry.2

theorem IsEntry.unique {entry entry' : String × Ctype} (h : IsEntry names f entry)
    (h' : IsEntry names f entry') : entry = entry' := by
  have same := (h.ctype "").symm.trans (h'.ctype "")
  exact Prod.ext (h.name.trans h'.name.symm) (Except.ok.inj same)

namespace BuiltFrom

variable (built : BuiltFrom names d name withRecord fields b)
include built

theorem stored_names : b.stored.map (·.1) = (Fields.exposed fields).map (·.name) := by
  obtain ⟨inward, each, -, same⟩ := built.inward
  rw [same, List.map_map]
  refine map_eq_of_mapM each fun f _ assigned computed => ?_
  obtain ⟨stored, -, sameField⟩ := checkAndStore_eq_ok computed
  exact congrArg Prod.fst sameField

theorem restored_names : b.restored.map (·.map (·.1)) =
    if withRecord then some ((Fields.exposed fields).map (·.name)) else none := by
  cases withRecord with
  | false => exact congrArg _ built.restored
  | true =>
    obtain ⟨restored, each, same⟩ := built.restored
    rw [same]
    exact congrArg some (map_eq_of_mapM each fun f _ read computed => (restore_eq_ok computed).1)

/-- The check of a field that ends at a narrow integer. -/
theorem guards_of_checkedBits? (sound : names.types.Sound)
    (distinct : (fields.map (·.name)).Nodup) (hf : f ∈ fields)
    (ends : names.types.ResolvesTo f.type r) {bits : Int} (h : r.type.checkedBits? = some bits) :
    BoundsCheck.Guards ⟨f.name, bits⟩ b f := by
  obtain ⟨same, narrow⟩ := NativeType.checkedBits?_eq_some_iff.mp h
  obtain ⟨⟨name', ctype⟩, lowered⟩ := isOk_of_mapM built.layout hf
  obtain ⟨rfl, represented⟩ := layoutField_eq_ok_iff.mp lowered
  obtain ⟨context, sameCtype⟩ := names.ctype_of_resolvesTo sound ends s!"{d.name}.{f.name}"
  rw [sameCtype, same] at represented
  obtain ⟨width, rfl, rfl⟩ := Names.ofBits_eq_ok represented
  have text := Ctype.text_unsigned width
  rw [if_neg narrow] at text
  refine ⟨rfl, CtypeWidth.bits_mem_of_narrow narrow, width, rfl, text, fun ctype => ?_⟩
  rw [built.mem_layout_iff distinct hf, lowered, Except.ok.injEq, Prod.mk.injEq, eq_comm]
  exact ⟨fun h => h.2.symm, fun h => ⟨rfl, h.symm⟩⟩

/-- The fields that are checked, each against the width of its representation. -/
theorem checks (sound : names.types.Sound)
    (wellFormed : ∀ f ∈ fields, f.type.WellFormed names.types)
    (distinct : (fields.map (·.name)).Nodup) :
    List.Forall₂ (fun f check => check.Guards b f) (fields.checked names.types) b.checks := by
  classical
  obtain ⟨inward, each, same, -⟩ := built.inward
  rw [same]
  refine forall₂_filter_filterMap (mapM_eq_ok.mp each) fun f hf assigned computed => ?_
  have mem := Fields.mem_of_mem_exposed hf
  obtain ⟨r, ends⟩ := sound.exists_resolvesTo (wellFormed f mem)
  have check := ((check?_eq_ok_iff sound ends).mp (check?_of_checkAndStore computed)).2
  cases bits : r.type.checkedBits? with
  | none =>
    right
    rw [bits] at check
    exact ⟨by simp [ends.endsInNarrow_iff, bits], check⟩
  | some bits' =>
    left
    rw [bits] at check
    exact ⟨by simp [ends.endsInNarrow_iff, bits], _, check,
      built.guards_of_checkedBits? sound distinct mem ends bits⟩

/-- The layout has every field with its representation. -/
theorem layout_entries (sound : names.types.Sound)
    (wellFormed : ∀ f ∈ fields, f.type.WellFormed names.types) :
    List.Forall₂ (IsEntry names) fields b.layout := by
  have each := (List.forall₂_and_left fields b.layout).mpr
    ⟨wellFormed, mapM_eq_ok.mp built.layout⟩
  refine each.imp fun f entry ⟨wellFormed, lowered⟩ => ?_
  obtain ⟨sameName, lowered⟩ := layoutField_eq_ok_iff.mp lowered
  exact ⟨sameName.symm, fun context =>
    names.ctype_eq_ok_of_context sound wellFormed context lowered⟩

end BuiltFrom

/-- Two layouts are the same if what they are of differs in flags alone. -/
theorem layout_eq_of_unflagged {names' : Names} {fields' : Fields}
    {layout layout' : List (String × Ctype)}
    (entries : List.Forall₂ (IsEntry names) fields layout)
    (entries' : List.Forall₂ (IsEntry names') fields' layout')
    (sameNames : names'.unflagged = names.unflagged)
    (sameFields : Fields.unflagged fields' = Fields.unflagged fields) : layout' = layout := by
  have withoutFlags : List.Forall₂ (IsEntry names) (Fields.unflagged fields) layout := by
    rw [Fields.unflagged, List.forall₂_map_left_iff]
    exact entries.imp fun f entry h => ⟨h.name, h.ctype⟩
  have withoutFlags' : List.Forall₂ (IsEntry names) (Fields.unflagged fields) layout' := by
    rw [← sameFields, Fields.unflagged, List.forall₂_map_left_iff]
    refine entries'.imp fun f entry h => ⟨h.name, fun context => ?_⟩
    rw [← Names.ctype_eq_of_unflagged sameNames]
    exact h.ctype context
  have unique : Relator.RightUnique (IsEntry names) := fun _ _ _ => IsEntry.unique
  exact unique.forall₂ withoutFlags' withoutFlags

/-- A struct that differs in nothing but flags has a binding too, with the same layout. -/
theorem exists_build_of_unflagged (sound : names.types.Sound)
    (wellFormed : ∀ f ∈ fields, f.type.WellFormed names.types)
    (struct : d.type = .struct .cAbi fields) (bound : build names d name withRecord = .ok b)
    {names' : Names} {d' : Declaration} {fields' : Fields} (sound' : names'.types.Sound)
    (wellFormed' : ∀ f ∈ fields', f.type.WellFormed names'.types)
    (struct' : d'.type = .struct .cAbi fields') (sameNames : names'.unflagged = names.unflagged)
    (sameFields : Fields.unflagged fields' = Fields.unflagged fields) (name' : String)
    (withRecord' : Bool) :
    ∃ b', build names' d' name' withRecord' = .ok b' ∧ b'.layout = b.layout := by
  have represented := (build_isOk_iff sound wellFormed struct name withRecord "").mp ⟨b, bound⟩
  have represented' : ∀ f ∈ fields', ∃ ctype, names'.ctype f.type "" = .ok ctype := fun f hf => by
    obtain ⟨f', hf', -, same⟩ := Fields.exists_mem_of_unflagged_eq sameFields hf
    rw [Names.ctype_eq_of_unflagged sameNames, ← same]
    exact represented f' hf'
  obtain ⟨b', bound'⟩ :=
    (build_isOk_iff sound' wellFormed' struct' name' withRecord' "").mpr represented'
  have entries := (BuiltFrom.of_struct struct bound).layout_entries sound wellFormed
  have entries' := (BuiltFrom.of_struct struct' bound').layout_entries sound' wellFormed'
  exact ⟨b', bound', layout_eq_of_unflagged entries entries' sameNames sameFields⟩

/-- There is a binding of a declared struct, with or without the way back, exactly if every field
has a representation. Its layout has all fields in order; the exposed ones are assigned, and read
back, in order; and those that end at an unsigned integer of another width than 128 bits are
checked, in order, each against the width of its representation. A struct that differs in nothing
but which fields are reserved has a binding too, with the same layout, even if other structs differ
in that as well. -/
theorem binding_of_fields {declarations : List Declaration}
    (accepted : Registry.build declarations = .ok names.types) (declared : d ∈ declarations)
    (struct : d.type = .struct .cAbi fields) :
    (∀ name withRecord context, (∃ b, build names d name withRecord = .ok b) ↔
      ∀ f ∈ fields, ∃ ctype, names.ctype f.type context = .ok ctype) ∧
    ∀ name withRecord b, build names d name withRecord = .ok b →
      List.Forall₂ (IsEntry names) fields b.layout ∧
      b.stored.map (·.1) = (Fields.exposed fields).map (·.name) ∧
      b.restored.map (·.map (·.1)) =
        (if withRecord then some ((Fields.exposed fields).map (·.name)) else none) ∧
      List.Forall₂ (fun f check => check.Guards b f) (fields.checked names.types) b.checks ∧
      ∀ (names' : Names) declarations' d', Registry.build declarations' = .ok names'.types →
        names'.unflagged = names.unflagged → d' ∈ declarations' →
        d'.type.unflagged = d.type.unflagged → ∀ name' withRecord',
          ∃ b', build names' d' name' withRecord' = .ok b' ∧ b'.layout = b.layout := by
  have sound := Registry.sound_of_build accepted
  obtain ⟨wellFormed, distinct⟩ := Registry.struct_of_build accepted declared struct
  refine ⟨build_isOk_iff sound wellFormed struct, fun name withRecord b bound => ?_⟩
  have built := BuiltFrom.of_struct struct bound
  refine ⟨built.layout_entries sound wellFormed, built.stored_names, built.restored_names,
    built.checks sound wellFormed distinct,
    fun names' declarations' d' accepted' sameNames declared' sameType => ?_⟩
  obtain ⟨fields', struct', sameFields⟩ :=
    NativeType.exists_of_unflagged_eq (sameType.trans (congrArg NativeType.unflagged struct))
  obtain ⟨wellFormed', -⟩ := Registry.struct_of_build accepted' declared' struct'
  exact exists_build_of_unflagged sound wellFormed struct bound (Registry.sound_of_build accepted')
    wellFormed' struct' sameNames sameFields

/-- A struct with a field that is checked, one that checks itself, and a reserved one. -/
def slot : Declaration :=
  ⟨"slot_t", .struct .cAbi [⟨"count", .ref "count_t", false⟩, ⟨"id", .int 128 false, false⟩,
    ⟨"reserved", .int 64 false, true⟩]⟩

/-- The same struct, with other fields reserved. -/
def openSlot : Declaration :=
  ⟨"open_slot_t", .struct .cAbi [⟨"count", .ref "count_t", true⟩, ⟨"id", .int 128 false, false⟩,
    ⟨"reserved", .int 64 false, false⟩]⟩

def slots : Names where
  types.declarations := [⟨"count_t", .int 32 false⟩, slot, openSlot]
  types.distinct := by decide
  protocol := default
  domain := default

theorem binding_of_fields_slots : Registry.build slots.types.declarations = .ok slots.types ∧
    ∃ b b', build slots slot "Slot" true = .ok b ∧ build slots openSlot "OpenSlot" false = .ok b' ∧
      b'.layout = b.layout ∧ b.stored.map (·.1) = ["count", "id"] ∧ b.checks = [⟨"count", 32⟩] ∧
      ∃ width : CtypeWidth, width.bits = 32 ∧ ("count", .unsigned width) ∈ b.layout := by
  refine ⟨rfl, _, _, rfl, rfl, ?_⟩
  obtain ⟨-, each⟩ := @binding_of_fields slots slot _ slots.types.declarations rfl
    (by simp [slots]) rfl
  obtain ⟨-, stored, -, checks, alike⟩ := each "Slot" true _ rfl
  obtain ⟨_, bound, layout⟩ :=
    alike slots slots.types.declarations openSlot rfl rfl (by simp [slots]) rfl "OpenSlot" false
  cases bound
  obtain ⟨f, _, guards, -, -⟩ := List.forall₂_cons_right_iff.mp checks
  obtain ⟨width, bits, -, laidOut⟩ := guards.width
  refine ⟨layout, stored, rfl, width, bits.symm, ?_⟩
  have mem := (laidOut _).mpr rfl
  rwa [← show "count" = f.name from guards.field] at mem

end StructBinding
end NativeBindings
