import NativeBindings.Proofs.FieldViews
import NativeBindings.Proofs.PackedWidths

/-!
# Fields of 128 bits

A field is represented by the runtime's wide integer if its type is 128 bits wide
(`Names.ctype_eq_unsigned_iff`), and assigned through that wrapper if its type is an unsigned
integer of 128 bits, or an alias of one. An enum or a packed struct of 128 bits is the first and not
the second (`Registry.EndsInWideClass`).

* `StructBinding.wrapped_iff_wide`: any other exposed field is assigned through the wrapper exactly
  if the wrapper represents it. The lines of the binding say the same (`WritesField`).
-/
namespace NativeBindings

/-! ## Fields -/

namespace Registry

variable {types : Registry} {type : NativeType} {width : Int} {r : Resolved}

/-- What has a width is a truth value, an unsigned integer, an enum or a packed struct. -/
theorem HasWidth.kind (h : types.HasWidth type width) (noRef : ∀ name, type ≠ .ref name) :
    (type = .bool ∧ width = 1) ∨ type = .int width false ∨ type.isEnumLike = true := by
  cases type with
  | bool => exact .inl ⟨rfl, hasWidth_bool_iff.mp h⟩
  | int bits signed =>
    obtain ⟨rfl, rfl⟩ := hasWidth_int_iff.mp h
    exact .inr (.inl rfl)
  | enum tagBits variants => exact .inr (.inr rfl)
  | struct layout fields =>
    cases layout with
    | packed => exact .inr (.inr rfl)
    | cAbi | auto =>
      obtain ⟨_, h⟩ := h
      cases h
  | ref name => exact absurd rfl (noRef name)
  | void | untyped | float | array | pointer =>
    obtain ⟨_, h⟩ := h
    cases h

/-- The type is a class of 128 bits, or an alias of one: an enum or a packed struct. -/
def EndsInWideClass (types : Registry) (type : NativeType) : Prop :=
  ∃ r, types.ResolvesTo type r ∧ r.type.isEnumLike = true ∧ types.HasWidth r.type 128

theorem ResolvesTo.endsInWideClass_iff (h : types.ResolvesTo type r) :
    types.EndsInWideClass type ↔ r.type.isEnumLike = true ∧ types.HasWidth r.type 128 := by
  constructor
  · rintro ⟨r', h', wide⟩
    rwa [h.unique h']
  · exact fun wide => ⟨r, h, wide⟩

theorem HasWidth.isWide_iff_not_isEnumLike (h : types.HasWidth type 128)
    (noRef : ∀ name, type ≠ .ref name) : type.isWide = true ↔ ¬ type.isEnumLike = true := by
  rcases h.kind noRef with ⟨-, one⟩ | rfl | enumLike
  · cases one
  · simp [NativeType.isWide, NativeType.isEnumLike]
  · cases type with
    | enum | struct => simp [enumLike, NativeType.isWide]
    | _ => cases enumLike

theorem hasWidth_of_isWide (types : Registry) (wide : type.isWide = true) :
    types.HasWidth type 128 := by
  cases type with
  | int bits signed =>
    simp only [NativeType.isWide, Bool.and_eq_true, Bool.not_eq_true', beq_iff_eq] at wide
    exact hasWidth_int_iff.mpr ⟨wide.1, wide.2.symm⟩
  | _ => cases wide

end Registry

/-! ## Texts -/

/-- No other representation is written as the wrapper of wide integers: the others begin with
`ctypes.`, and a product has blanks. -/
theorem Ctype.text_eq_wide_iff {type : Ctype} :
    type.text = "c_uint128" ↔ type = .unsigned .w128 := by
  constructor
  · intro same
    cases type with
    | none => exact absurd same (by decide)
    | bool => exact absurd same (by decide)
    | untypedPointer => exact absurd same (by decide)
    | unsigned width =>
      cases width with
      | w128 => rfl
      | _ => exact absurd same (by decide)
    | pointer name =>
      have letters := congrArg String.toList same
      rw [text_pointer, String.append_assoc, String.toList_append,
        show "ctypes.POINTER(".toList = 'c' :: 't' :: "ypes.POINTER(".toList from rfl,
        show "c_uint128".toList = 'c' :: '_' :: "uint128".toList from rfl] at letters
      simp at letters
    | array element length =>
      have blank : ' ' ∈ (array element length).text.toList := by
        simp [text_array, String.toList_append]
      rw [same] at blank
      exact absurd blank (by decide)
  · rintro rfl
    rfl

theorem Stored.text_eq_wide_iff {stored : Stored} {field : String} :
    stored.text field = "c_uint128.from_param(obj." ++ field ++ ")" ↔ stored = .wide := by
  cases stored with
  | plain =>
    rw [text_plain]
    refine ⟨fun same => ?_, nofun⟩
    have letters := congrArg String.toList same
    rw [String.append_assoc, String.toList_append, String.toList_append,
      show "obj.".toList = 'o' :: "bj.".toList from rfl,
      show "c_uint128.from_param(obj.".toList = 'c' :: "_uint128.from_param(obj.".toList from rfl]
      at letters
    simp at letters
  | wide => exact ⟨fun _ => rfl, fun _ => text_wide field⟩

namespace StructBinding

variable {names : Names} {d : Declaration} {fields : Fields} {name : String} {withRecord : Bool}
  {b : StructBinding}

/-- A field that is assigned through the wrapper is represented by it, and the other way round
unless its type is a class of 128 bits. -/
theorem represented_wide_iff_of_store (sound : names.types.Sound) {owner : String}
    {f : Field NativeType} {stored : Stored} {ctype : Ctype} (hstored : store names f = .ok stored)
    (lowered : layoutField names owner f = .ok (f.name, ctype)) :
    (stored = .wide → ctype = .unsigned .w128) ∧
      ((ctype = .unsigned .w128 ↔ stored = .wide) ↔ ¬ names.types.EndsInWideClass f.type) := by
  obtain ⟨r, ends, same⟩ := store_eq_ok hstored
  have lowered := (layoutField_eq_ok_iff.mp lowered).2
  obtain ⟨context, sameCtype⟩ := names.ctype_of_resolvesTo sound ends s!"{owner}.{f.name}"
  rw [sameCtype] at lowered
  have assigned : stored = .wide ↔ r.type.isWide = true := by
    rw [same]
    cases r.type.isWide <;> simp
  have represented : ctype = .unsigned .w128 ↔ names.types.HasWidth r.type 128 := by
    have wide := @Names.ctype_eq_unsigned_iff names r.type context .w128 ends.not_ref
    rw [lowered, Except.ok.injEq] at wide
    exact wide
  rw [assigned, represented, ends.endsInWideClass_iff]
  refine ⟨names.types.hasWidth_of_isWide, ?_⟩
  constructor
  · rintro agree ⟨enumLike, wide⟩
    exact (wide.isWide_iff_not_isEnumLike ends.not_ref).mp (agree.mp wide) enumLike
  · intro apart
    refine ⟨fun wide => ?_, names.types.hasWidth_of_isWide⟩
    exact (wide.isWide_iff_not_isEnumLike ends.not_ref).mpr fun enumLike => apart ⟨enumLike, wide⟩

namespace BuiltFrom

variable (built : BuiltFrom names d name withRecord fields b)
  (distinct : (fields.map (·.name)).Nodup) {f : Field NativeType}
include built distinct

/-- Among the assignments of a binding, a field is found by its name. -/
theorem mem_stored_iff (hf : f ∈ Fields.exposed fields) {stored : Stored} :
    (f.name, stored) ∈ b.stored ↔ store names f = .ok stored := by
  obtain ⟨inward, each, -, same⟩ := built.inward
  rw [same, List.mem_map]
  constructor
  · rintro ⟨assigned, listed, sameField⟩
    obtain ⟨f', hf', computed⟩ := (mem_iff_of_mapM each).mp listed
    obtain ⟨stored', hstored, sameField'⟩ := checkAndStore_eq_ok computed
    obtain ⟨sameName, rfl⟩ := Prod.mk.inj (sameField'.symm.trans sameField)
    have sameField := List.inj_on_of_nodup_map distinct (Fields.mem_of_mem_exposed hf')
      (Fields.mem_of_mem_exposed hf) sameName
    exact sameField ▸ hstored
  · intro hstored
    obtain ⟨assigned, computed⟩ := isOk_of_mapM each hf
    obtain ⟨stored', hstored', sameField⟩ := checkAndStore_eq_ok computed
    obtain rfl := Except.ok.inj (hstored.symm.trans hstored')
    exact ⟨assigned, (mem_iff_of_mapM each).mpr ⟨f, hf, computed⟩, sameField⟩

theorem mem_layout_iff (hf : f ∈ fields) {ctype : Ctype} :
    (f.name, ctype) ∈ b.layout ↔ layoutField names d.name f = .ok (f.name, ctype) := by
  rw [mem_iff_of_mapM built.layout]
  constructor
  · rintro ⟨f', hf', lowered⟩
    have sameName := (layoutField_eq_ok_iff.mp lowered).1
    exact List.inj_on_of_nodup_map distinct hf' hf sameName ▸ lowered
  · exact fun lowered => ⟨f, hf, lowered⟩

end BuiltFrom

/-- The lines of a binding assign a field and represent it: the assignment goes through the wrapper
of wide integers or is of the field as it is, and the wrapper is recognized by its name. -/
structure WritesField (b : StructBinding) (field : String) (stored : Stored) (ctype : Ctype) :
    Prop where
  argument : s!"            {field}={stored.text field}," ∈ b.lines
  entry : s!"    (\"{field}\", {ctype.text})," ∈ b.lines
  wrapped : stored.text field = "c_uint128.from_param(obj." ++ field ++ ")" ↔ stored = .wide
  plain : stored = .plain → stored.text field = "obj." ++ field
  represented : ctype.text = "c_uint128" ↔ ctype = .unsigned .w128

theorem writesField {field : String} {stored : Stored} {ctype : Ctype}
    (assigned : (field, stored) ∈ b.stored) (laidOut : (field, ctype) ∈ b.layout) :
    b.WritesField field stored ctype where
  argument := by
    have listed := List.mem_map_of_mem (f := fun f => argument f.1 (f.2.text f.1)) assigned
    refine b.construction_infix_lines.subset ?_
    exact List.mem_append_left _ (List.mem_append_right _ listed)
  entry := b.mem_lines_of_mem_layout laidOut
  wrapped := Stored.text_eq_wide_iff
  plain := by
    rintro rfl
    exact Stored.text_plain field
  represented := Ctype.text_eq_wide_iff

/-- Every exposed field of a binding has one representation and is assigned in one way, and both are
written so. If it goes through the wrapper of wide integers, the wrapper represents it; and if the
wrapper represents it, it goes through the wrapper, unless its type is a class of 128 bits: those
are assigned as they are. -/
theorem wrapped_iff_wide {declarations : List Declaration}
    (accepted : Registry.build declarations = .ok names.types) (declared : d ∈ declarations)
    (struct : d.type = .struct .cAbi fields) (bound : build names d name withRecord = .ok b) :
    ∀ f ∈ Fields.exposed fields, ∃ stored ctype,
      (∀ stored', (f.name, stored') ∈ b.stored ↔ stored' = stored) ∧
      (∀ ctype', (f.name, ctype') ∈ b.layout ↔ ctype' = ctype) ∧
      b.WritesField f.name stored ctype ∧
      (stored = .wide → ctype = .unsigned .w128) ∧
      ((ctype = .unsigned .w128 ↔ stored = .wide) ↔ ¬ names.types.EndsInWideClass f.type) := by
  intro f hf
  have sound := Registry.sound_of_build accepted
  obtain ⟨made, -⟩ := Registry.build_eq_ok_iff.mp accepted
  obtain ⟨-, distinct⟩ :=
    (Check.declaration_eq_ok_iff_of_struct struct).mp (sound.checked d (made ▸ declared))
  obtain ⟨fields', built⟩ := builtFrom_of_build bound
  obtain rfl : fields = fields' := by simpa [struct] using built.struct
  have mem := Fields.mem_of_mem_exposed hf
  obtain ⟨⟨name', ctype⟩, lowered⟩ := isOk_of_mapM built.layout mem
  obtain rfl := (layoutField_eq_ok_iff.mp lowered).1
  obtain ⟨inward, each, -⟩ := built.inward
  obtain ⟨assigned, computed⟩ := isOk_of_mapM each hf
  obtain ⟨stored, hstored, -⟩ := checkAndStore_eq_ok computed
  have assigned := (built.mem_stored_iff distinct hf).mpr hstored
  have laidOut := (built.mem_layout_iff distinct mem).mpr lowered
  refine ⟨stored, ctype, fun stored' => ?_, fun ctype' => ?_, writesField assigned laidOut,
    represented_wide_iff_of_store sound hstored lowered⟩
  · rw [built.mem_stored_iff distinct hf, hstored, Except.ok.injEq, eq_comm]
  · rw [built.mem_layout_iff distinct mem, lowered, Except.ok.injEq, Prod.mk.injEq, eq_comm]
    exact and_iff_right rfl |>.trans eq_comm

/-- A struct with fields of 128 bits of every kind. -/
def wideRecord : Declaration :=
  ⟨"record_t", .struct .cAbi [⟨"id", .ref "id_t", false⟩, ⟨"kind", .ref "kind_t", false⟩,
    ⟨"flags", .ref "flags_t", false⟩, ⟨"reserved", .ref "kind_t", true⟩]⟩

def wideTypes : Registry where
  declarations := [⟨"id_t", .int 128 false⟩, ⟨"kind_t", .enum 128 [⟨"plain", 0⟩]⟩,
    ⟨"flags_t", .struct .packed [⟨"linked", .bool, false⟩, ⟨"padding", .int 127 false, false⟩]⟩,
    wideRecord]
  distinct := by decide

theorem wrapped_iff_wide_record : ∃ b, Registry.build wideTypes.declarations = .ok wideTypes ∧
    build ⟨wideTypes, default, default⟩ wideRecord "Record" false = .ok b ∧
    (("id", .unsigned .w128) ∈ b.layout ↔ ("id", .wide) ∈ b.stored) ∧
    "            id=c_uint128.from_param(obj.id)," ∈ b.lines := by
  refine ⟨_, rfl, rfl, ?_⟩
  obtain ⟨stored, ctype, hstored, hctype, written, -, agree⟩ :=
    @wrapped_iff_wide ⟨wideTypes, default, default⟩ wideRecord _ "Record" false _
      wideTypes.declarations rfl (by simp [wideTypes]) rfl rfl ⟨"id", .ref "id_t", false⟩
      (by simp [Fields.exposed])
  have found : wideTypes.find? "id_t" = some ⟨"id_t", .int 128 false⟩ := rfl
  have ends := Registry.ResolvesTo.ref found (.here fun _ => NativeType.noConfusion)
  have plain : ¬ wideTypes.EndsInWideClass (.ref "id_t") := by
    rw [ends.endsInWideClass_iff]
    simp [NativeType.isEnumLike]
  have wide : Stored.wide = stored := (hstored .wide).mp (by decide)
  have argument := written.argument
  rw [written.wrapped.mpr wide.symm] at argument
  refine ⟨?_, argument⟩
  rw [hstored, hctype, eq_comm, agree.mpr plain, eq_comm]

/-- A field of an enum of 128 bits is represented by the wrapper of wide integers and assigned as it
is, in the lines of the binding too. -/
theorem wide_enum_assigned_plain : ∃ b, Registry.build wideTypes.declarations = .ok wideTypes ∧
    build ⟨wideTypes, default, default⟩ wideRecord "Record" false = .ok b ∧
    ("kind", .unsigned .w128) ∈ b.layout ∧ ("kind", .plain) ∈ b.stored ∧
      ("kind", .wide) ∉ b.stored ∧
      "    (\"kind\", c_uint128)," ∈ b.lines ∧ "            kind=obj.kind," ∈ b.lines ∧
      "            kind=c_uint128.from_param(obj.kind)," ∉ b.lines := by
  refine ⟨_, rfl, rfl, ?_⟩
  decide

end StructBinding
end NativeBindings
