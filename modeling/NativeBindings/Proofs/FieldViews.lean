import NativeBindings.Proofs.Methods
import NativeBindings.Proofs.PackedWidths

/-!
# The views of a field

A struct of the domain table appears twice in a module: as a record, whose fields have a type hint
and a default, and as a binding, which stores each field, reads it back and knows its
representation. Five walks along aliases decide about one field, and they agree: record,
constructor and converter list the same fields in the same order (`Composition.Shows`), with the
lines that this comes to (`Composition.ShownBy`), and every field is treated in exactly one of
three ways (`Names.Treats`). A field of an enum or a packed struct goes through its class, a wide
integer through the runtime's wrapper, and everything else is passed on as it is. Each way says
what all the expressions are, down to their text (`FieldView.Written`).

* `Names.existsUnique_treatment`: a field that every walk accepts is treated in one of the ways.
  What one walk lets through, another refuses: a pointer has no hint, a struct by value no default,
  an integer of an odd width no representation.
* `Composition.record_and_binding_agree`: the record and the binding of a struct agree.
-/
namespace NativeBindings

/-- An exposed field with what the record and the binding make of it. -/
structure FieldView where
  field : Field NativeType
  hint : TypeHint
  default : DefaultValue
  stored : Stored
  restored : Restored
  ctype : Ctype
  deriving Inhabited

variable {names : Names} {f : Field NativeType} {v : FieldView}

/-! ## One field -/

namespace StructBinding

theorem store_eq_ok {stored : Stored} (h : store names f = .ok stored) :
    ∃ r, names.types.ResolvesTo f.type r ∧
      stored = if r.type.isWide then .wide else .plain := by
  simp only [store, Names.isWide, Registry.underlying, bind_eq_ok, map_eq_ok, pure_eq_ok] at h
  obtain ⟨_, ⟨_, ⟨r, resolved, rfl⟩, rfl⟩, rfl⟩ := h
  exact ⟨r, Registry.resolvesTo_of_resolve resolved, rfl⟩

theorem checkAndStore_eq_ok {owner : String} {inward : Option BoundsCheck × String × Stored}
    (h : checkAndStore names owner f = .ok inward) :
    ∃ stored, store names f = .ok stored ∧ inward.2 = (f.name, stored) := by
  simp only [checkAndStore, bind_eq_ok, pure_eq_ok] at h
  obtain ⟨check, -, stored, hstored, rfl⟩ := h
  exact ⟨stored, hstored, rfl⟩

/-- A field is read back through the class of the enum or struct that its type ends at, if that has
a name in the domain table. -/
theorem restore_eq_ok {field : String × Restored} (h : restore names f = .ok field) :
    field.1 = f.name ∧ ∃ r, names.types.ResolvesTo f.type r ∧
      (r.type.isNominal = false → field.2 = if r.type.isWide then .wide else .plain) ∧
      (r.type.isNominal = true → ∀ declaration name, r.declaration = some declaration →
        names.lookupDomain declaration = some name → field.2 = .wrapped name) := by
  unfold restore at h
  obtain ⟨r, resolved, h⟩ := bind_eq_ok.mp h
  have leads := Registry.resolvesTo_of_resolve resolved
  dsimp only at h
  split at h
  · rename_i name found
    obtain rfl := pure_eq_ok.mp h
    refine ⟨rfl, r, leads, fun structural => ?_, fun nominal declaration name' last mapped => ?_⟩
    · simp [structural] at found
    · simp only [nominal, ↓reduceIte, last, Option.bind_some, mapped, Option.some.injEq] at found
      rw [found]
  · rename_i missing
    obtain rfl := pure_eq_ok.mp h
    refine ⟨rfl, r, leads, fun _ => rfl, fun nominal declaration name' last mapped => ?_⟩
    simp [nominal, last, mapped] at missing

end StructBinding

structure FieldView.Computed (names : Names) (owner : String) (v : FieldView) : Prop where
  hint : ∃ context, names.hint v.field.type context = .ok v.hint
  default : ∃ context, names.defaultValue v.field.type context = .ok v.default
  stored : StructBinding.store names v.field = .ok v.stored
  restored : StructBinding.restore names v.field = .ok (v.field.name, v.restored)
  ctype : StructBinding.layoutField names owner v.field = .ok (v.field.name, v.ctype)

/-- What a field is written as: its annotation and its default in the record, the arguments for it
in the constructor and in the converter of the binding, and its representation there. -/
structure FieldView.Written (v : FieldView) (hint default stored restored ctype : String) :
    Prop where
  hint : v.hint.text = hint
  default : v.default.text = default
  stored : v.stored.text v.field.name = stored
  restored : v.restored.text v.field.name = restored
  ctype : v.ctype.text = ctype

/-! ## The three ways -/

/-- The name of a declaration in the domain table has a class: once the first pass is over, its
entry has become one, whose lines say so, with a member for no flags at the beginning if it is of
flags. -/
def Names.HasClass (names : Names) (declaration : String) (type : NativeType) (name : String) :
    Prop :=
  ∃ entries, names.all = .ok entries ∧ ∃ e ∈ entries, e.table = .domain ∧
    e.mapping.type = declaration ∧ e.mapping.name = name ∧ e.declaration.type = type ∧
    ∀ definitions, entries.mapM (·.definition? names) = .ok definitions →
      ∃ class', some (.enumClass class') ∈ definitions ∧ class'.name = name ∧
        match type with
        | .struct _ _ => class'.base = .flags ∧
            class'.members.head? = some ⟨"NONE", 0, .numeral 0⟩ ∧
            [s!"class {name}(enum.IntFlag):", "    NONE = 0"] <+: class'.lines
        | _ => class'.base = .integers ∧ [s!"class {name}(enum.IntEnum):"] <+: class'.lines

/-- A type that is passed on as it is. -/
def NativeType.IsPlain : NativeType → Prop
  | .bool => True
  | .void => True
  | .int bits signed => signed = false ∧ bits < 128
  | .array _ _ => True
  | _ => False

/-- What a type that is passed on as it is, is written as: its annotation, its default and its
representation. An array is written as its elements are, with its length. -/
inductive Names.PlainTexts (names : Names) : NativeType → String → String → String → Prop
  | bool : PlainTexts names .bool "bool" "False" "ctypes.c_bool"
  | void : PlainTexts names .void "None" "None" "None"
  | int {width : CtypeWidth} (narrow : width.bits < 128) :
      PlainTexts names (.int width.bits false) "int" "0" ("ctypes.c_uint" ++ countText width.bits)
  | array {element : NativeType} {hint : TypeHint} {default : DefaultValue} {ctype : Ctype}
      (length : Int) (hinted : ∃ context, names.hint element context = .ok hint)
      (defaulted : ∃ context, names.defaultValue element context = .ok default)
      (represented : ∃ context, names.ctype element context = .ok ctype) :
      PlainTexts names (.array element length) (hint.text ++ "[" ++ countText length ++ "]")
        ("(" ++ default.text ++ ",) * " ++ countText length)
        (ctype.text ++ " * " ++ countText length)

inductive Treatment where
  | classed | wide | plain
  deriving DecidableEq, Repr, Inhabited

/-- How a field is treated whose type ends at a type. -/
def NativeType.treatment (type : NativeType) : Treatment :=
  if type.isNominal then .classed else if type.isWide then .wide else .plain

/-- What each treatment says about all views of a field, and about what they are written as. -/
def Names.Treats (names : Names) (v : FieldView) : Treatment → Prop
  | .classed => ∃ declaration type name width,
      names.types.ResolvesTo v.field.type ⟨type, some declaration⟩ ∧ type.isEnumLike = true ∧
      names.lookupDomain declaration = some name ∧ names.HasClass declaration type name ∧
      v.hint = .named name ∧ v.stored = .plain ∧ v.restored = .wrapped name ∧
      v.default = (match type with
        | .struct _ _ => .noFlags name
        | _ => .zero) ∧
      names.types.HasWidth type width.bits ∧ v.ctype = .unsigned width ∧
      v.Written name
        (match type with
          | .struct _ _ => name ++ ".NONE"
          | _ => "0")
        ("obj." ++ v.field.name) (name ++ "(self." ++ v.field.name ++ ")")
        (if width.bits = 128 then "c_uint128" else "ctypes.c_uint" ++ countText width.bits)
  | .wide => ∃ declaration, names.types.ResolvesTo v.field.type ⟨.int 128 false, declaration⟩ ∧
      v.hint = .int ∧ v.default = .zero ∧ v.stored = .wide ∧ v.restored = .wide ∧
      v.ctype = .unsigned .w128 ∧
      v.Written "int" "0" ("c_uint128.from_param(obj." ++ v.field.name ++ ")")
        ("self." ++ v.field.name ++ ".to_python()") "c_uint128"
  | .plain => ∃ r hint default ctype, names.types.ResolvesTo v.field.type r ∧ r.type.IsPlain ∧
      v.stored = .plain ∧ v.restored = .plain ∧ names.PlainTexts r.type hint default ctype ∧
      v.Written hint default ("obj." ++ v.field.name) ("self." ++ v.field.name) ctype

namespace Names

theorem treatment_of_treats {t : Treatment} (h : names.Treats v t) :
    ∃ r, names.types.ResolvesTo v.field.type r ∧ r.type.treatment = t := by
  cases t with
  | classed =>
    obtain ⟨declaration, type, _, _, ends, enumLike, -⟩ := h
    refine ⟨_, ends, ?_⟩
    cases type <;> first | rfl | cases enumLike
  | wide =>
    obtain ⟨declaration, ends, -⟩ := h
    exact ⟨_, ends, rfl⟩
  | plain =>
    obtain ⟨⟨type, declaration⟩, _, _, _, ends, plain, -⟩ := h
    refine ⟨_, ends, ?_⟩
    cases type with
    | int bits signed =>
      have narrow : bits ≠ 128 := ne_of_lt plain.2
      simp [NativeType.treatment, NativeType.isNominal, NativeType.isWide, narrow]
    | _ => first | rfl | exact plain.elim

theorem treatment_unique {t t' : Treatment} (h : names.Treats v t) (h' : names.Treats v t') :
    t = t' := by
  obtain ⟨r, ends, rfl⟩ := treatment_of_treats h
  obtain ⟨r', ends', rfl⟩ := treatment_of_treats h'
  rw [ends.unique ends']

theorem Sound.hasClass (sound : names.Sound) {declaration name : String} {d : Declaration}
    (found : names.types.find? declaration = some d) (enumLike : d.type.isEnumLike = true)
    (mapped : names.lookupDomain declaration = some name) :
    names.HasClass declaration d.type name := by
  obtain ⟨entries, listed⟩ := sound.all_isOk
  obtain ⟨e, he, table, rfl, rfl⟩ := exists_domain_entry listed mapped
  obtain ⟨-, -, -, -, -, -, -, each⟩ := all_eq_ok listed
  have same : some e.declaration = some d := (each e he).symm.trans found
  cases same
  refine ⟨entries, listed, e, he, table, rfl, rfl, rfl, fun definitions pass => ?_⟩
  obtain ⟨class', built, emitted⟩ := NamedDeclaration.enumClass_isOk pass he enumLike
  refine ⟨class', emitted, ?_⟩
  cases htype : e.declaration.type with
  | enum tagBits variants =>
    rw [EnumClass.build_of_enum htype built]
    exact ⟨rfl, rfl, EnumClass.integers_prefix_lines _ _⟩
  | struct layout fields =>
    obtain rfl : layout = .packed := by
      rw [htype] at enumLike
      cases layout <;> first | rfl | cases enumLike
    obtain ⟨named, flags, first⟩ := EnumClass.build_of_packed htype built
    rw [← named]
    exact ⟨rfl, flags, first, EnumClass.flags_prefix_lines flags first⟩
  | _ => rw [htype] at enumLike; cases enumLike

/-- Of the enums and structs, an enum has a default, and a packed struct that the domain table
names. -/
theorem defaultOfDeclaration_eq_ok {onReference : OnReference DefaultValue} {reference : String}
    {d : Declaration} {context : String} {value : DefaultValue} (nominal : d.type.isNominal = true)
    (h : names.defaultOfDeclaration onReference reference d context = .ok value) :
    (∃ tagBits variants, d.type = .enum tagBits variants ∧ value = .zero) ∨
      ∃ fields name, d.type = .struct .packed fields ∧ names.lookupDomain d.name = some name ∧
        value = .noFlags name := by
  unfold defaultOfDeclaration at h
  cases htype : d.type with
  | enum tagBits variants =>
    rw [htype] at h
    exact .inl ⟨tagBits, variants, rfl, (Except.ok.inj h).symm⟩
  | struct layout fields =>
    rw [htype] at h
    cases layout with
    | packed =>
      obtain ⟨name, required, rfl⟩ := map_eq_ok.mp h
      exact .inr ⟨fields, name, rfl, requireDomain_eq_ok_iff.mp required, rfl⟩
    | cAbi => cases h
    | auto => cases h
  | _ => simp [htype, NativeType.isNominal] at nominal

theorem ctype_of_enumLike {type : NativeType} {context : String} {ctype : Ctype}
    (enumLike : type.isEnumLike = true) (h : names.ctype type context = .ok ctype) :
    ∃ width : CtypeWidth, names.types.HasWidth type width.bits ∧ ctype = .unsigned width := by
  obtain ⟨width, rfl⟩ : ∃ width, ctype = .unsigned width := by
    cases type with
    | enum tagBits variants =>
      obtain ⟨width, -, same⟩ := ofBits_eq_ok h
      exact ⟨width, same⟩
    | struct layout fields =>
      cases layout with
      | packed =>
        obtain ⟨total, -, lowered⟩ := bind_eq_ok.mp h
        obtain ⟨width, -, same⟩ := ofBits_eq_ok lowered
        exact ⟨width, same⟩
      | cAbi | auto => cases enumLike
    | _ => cases enumLike
  have noRef : ∀ name, type ≠ .ref name := by
    rintro name rfl
    cases enumLike
  exact ⟨width, (ctype_eq_unsigned_iff noRef).mp h, rfl⟩

/-- A field whose type ends at an enum or a struct goes through its class. -/
theorem treats_classed (sound : names.types.Sound) (named : names.Sound) {owner : String}
    (computed : v.Computed names owner) {declaration : String} {d : Declaration}
    (ends : names.types.ResolvesTo v.field.type ⟨d.type, some declaration⟩)
    (found : names.types.find? declaration = some d) (nominal : d.type.isNominal = true) :
    names.Treats v .classed := by
  obtain ⟨context, hinted⟩ := computed.hint
  obtain ⟨_, same⟩ := hint_of_resolvesTo_nominal sound ends nominal rfl context
  rw [same] at hinted
  obtain ⟨name, required, hint⟩ := map_eq_ok.mp hinted
  have mapped := requireDomain_eq_ok_iff.mp required
  obtain ⟨context', defaulted⟩ := computed.default
  obtain ⟨_, same'⟩ := defaultValue_of_resolvesTo_nominal sound ends nominal rfl found context'
  rw [same'] at defaulted
  have lowered := (StructBinding.layoutField_eq_ok_iff.mp computed.ctype).2
  obtain ⟨_, sameCtype⟩ := ctype_of_resolvesTo sound ends s!"{owner}.{v.field.name}"
  rw [sameCtype] at lowered
  obtain ⟨r, ends', stored⟩ := StructBinding.store_eq_ok computed.stored
  obtain rfl := ends.unique ends'
  obtain ⟨-, r, ends', -, wrapped⟩ := StructBinding.restore_eq_ok computed.restored
  obtain rfl := ends.unique ends'
  have restored : v.restored = .wrapped name := wrapped nominal declaration name rfl mapped
  -- Whichever of the two it is, the class is the same, and only the default differs.
  have assemble (enumLike : d.type.isEnumLike = true) (plain : v.stored = .plain)
      {default : String} (defaultText : v.default.text = default) : ∃ width,
      names.types.HasWidth d.type width.bits ∧ v.ctype = .unsigned width ∧
        v.Written name default ("obj." ++ v.field.name) (name ++ "(self." ++ v.field.name ++ ")")
          (if width.bits = 128 then "c_uint128" else "ctypes.c_uint" ++ countText width.bits) := by
    obtain ⟨width, hasWidth, ctype⟩ := ctype_of_enumLike enumLike lowered
    refine ⟨width, hasWidth, ctype, ?_, defaultText, ?_, ?_, ?_⟩
    · rw [← hint, TypeHint.text_named]
    · rw [plain, Stored.text_plain]
    · rw [restored, Restored.text_wrapped]
    · rw [ctype, Ctype.text_unsigned]
  rcases defaultOfDeclaration_eq_ok nominal defaulted with
    ⟨tagBits, variants, htype, default⟩ | ⟨fields, name', htype, mapped', default⟩
  · have enumLike : d.type.isEnumLike = true := by rw [htype]; rfl
    have plain : v.stored = .plain := by rw [stored, htype]; rfl
    have defaultText : v.default.text = "0" := by rw [default, DefaultValue.text_zero]
    obtain ⟨width, hasWidth, ctype, written⟩ := assemble enumLike plain defaultText
    refine ⟨declaration, d.type, name, width, ends, enumLike, mapped,
      named.hasClass found enumLike mapped, hint.symm, plain, restored, ?_, hasWidth, ctype, ?_⟩
    · rw [default, htype]
    · rwa [htype]
  · have enumLike : d.type.isEnumLike = true := by rw [htype]; rfl
    have plain : v.stored = .plain := by rw [stored, htype]; rfl
    obtain rfl : name = name' := by
      rw [(Registry.find?_eq_some_iff.mp found).2, mapped] at mapped'
      exact Option.some.inj mapped'
    have defaultText : v.default.text = name ++ ".NONE" := by
      rw [default, DefaultValue.text_noFlags]
    obtain ⟨width, hasWidth, ctype, written⟩ := assemble enumLike plain defaultText
    refine ⟨declaration, d.type, name, width, ends, enumLike, mapped,
      named.hasClass found enumLike mapped, hint.symm, plain, restored, ?_, hasWidth, ctype, ?_⟩
    · rw [default, htype]
    · rwa [htype]

/-- A type that all walks accept, and that is no enum, struct or wide integer, is passed on as it
is. -/
theorem plainTexts_of_walks {type : NativeType} {hint : TypeHint} {default : DefaultValue}
    {ctype : Ctype} {context context' context'' : String} (noRef : ∀ name, type ≠ .ref name)
    (structural : type.isNominal = false) (narrow : type.isWide = false)
    (hinted : names.hint type context = .ok hint)
    (defaulted : names.defaultValue type context' = .ok default)
    (lowered : names.ctype type context'' = .ok ctype) :
    type.IsPlain ∧ names.PlainTexts type hint.text default.text ctype.text := by
  cases type with
  | bool =>
    cases hinted
    cases defaulted
    cases lowered
    rw [TypeHint.text_bool, DefaultValue.text_false]
    exact ⟨trivial, .bool⟩
  | void =>
    cases hinted
    cases defaulted
    cases lowered
    rw [TypeHint.text_none, DefaultValue.text_none]
    exact ⟨trivial, .void⟩
  | int bits signed =>
    cases signed with
    | true => cases hinted
    | false =>
      obtain ⟨width, rfl, rfl⟩ := ofBits_eq_ok lowered
      have notWide : width.bits ≠ 128 := by simpa [NativeType.isWide] using narrow
      have below : width.bits < 128 := lt_of_le_of_ne width.bits_le notWide
      cases hinted
      cases defaulted
      rw [Ctype.text_unsigned, if_neg notWide]
      exact ⟨⟨rfl, below⟩, .int below⟩
  | array element length =>
    obtain ⟨elementHint, hint, rfl⟩ := map_eq_ok.mp hinted
    obtain ⟨elementDefault, default, rfl⟩ := map_eq_ok.mp defaulted
    obtain ⟨elementCtype, ctype, rfl⟩ := map_eq_ok.mp lowered
    rw [DefaultValue.text_repeated, Ctype.text_array]
    exact ⟨trivial, .array length ⟨_, hint⟩ ⟨_, default⟩ ⟨_, ctype⟩⟩
  | untyped => cases hinted
  | float bits => cases hinted
  | pointer pointee nullable => cases hinted
  | ref name => exact absurd rfl (noRef name)
  | enum tagBits variants => cases structural
  | struct layout fields => cases structural

/-- A field whose type ends at something else is a wide integer, or is passed on as it is. -/
theorem treats_structural (sound : names.types.Sound) {owner : String}
    (computed : v.Computed names owner) {r : Resolved}
    (ends : names.types.ResolvesTo v.field.type r) (structural : r.type.isNominal = false) :
    names.Treats v .wide ∨ names.Treats v .plain := by
  obtain ⟨context, hinted⟩ := computed.hint
  obtain ⟨_, sameHint⟩ := hint_of_resolvesTo sound ends structural context
  rw [sameHint] at hinted
  obtain ⟨context', defaulted⟩ := computed.default
  obtain ⟨_, sameDefault⟩ := defaultValue_of_resolvesTo sound ends structural context'
  rw [sameDefault] at defaulted
  have lowered := (StructBinding.layoutField_eq_ok_iff.mp computed.ctype).2
  obtain ⟨place, sameCtype⟩ := ctype_of_resolvesTo sound ends s!"{owner}.{v.field.name}"
  rw [sameCtype] at lowered
  obtain ⟨r', ends', stored⟩ := StructBinding.store_eq_ok computed.stored
  obtain rfl := ends.unique ends'
  obtain ⟨-, r', ends', restored, -⟩ := StructBinding.restore_eq_ok computed.restored
  obtain rfl := ends.unique ends'
  have restored : v.restored = if r.type.isWide then .wide else .plain := restored structural
  cases wide : r.type.isWide with
  | true =>
    obtain ⟨type, declaration⟩ := r
    obtain rfl := NativeType.isWide_iff.mp wide
    have lowered : Ctype.ofBits 128 place = .ok v.ctype := lowered
    obtain ⟨width, bits, ctype⟩ := ofBits_eq_ok lowered
    obtain rfl : width = .w128 := CtypeWidth.bits_injective bits.symm
    have hint : v.hint = .int := (Except.ok.inj hinted).symm
    have default : v.default = .zero := (Except.ok.inj defaulted).symm
    refine .inl ⟨declaration, ends, hint, default, stored, restored, ctype, ?_, ?_, ?_, ?_, ?_⟩
    · rw [hint, TypeHint.text_int]
    · rw [default, DefaultValue.text_zero]
    · rw [stored]
      exact Stored.text_wide v.field.name
    · rw [restored]
      exact Restored.text_wide v.field.name
    · rw [ctype, Ctype.text_unsigned]
      rfl
  | false =>
    rw [wide] at stored restored
    obtain ⟨plain, texts⟩ :=
      plainTexts_of_walks ends.not_ref structural wide hinted defaulted lowered
    refine .inr ⟨r, _, _, _, ends, plain, stored, restored, texts, rfl, rfl, ?_, ?_, rfl⟩
    · rw [stored]
      exact Stored.text_plain v.field.name
    · rw [restored]
      exact Restored.text_plain v.field.name

/-- Every field that all walks accept is treated in exactly one of the three ways. -/
theorem existsUnique_treatment (sound : names.types.Sound) (named : names.Sound) {owner : String}
    (wellFormed : v.field.type.WellFormed names.types) (computed : v.Computed names owner) :
    ∃! t, names.Treats v t := by
  refine existsUnique_of_exists_of_unique ?_ fun t t' => treatment_unique
  obtain ⟨r, ends, -⟩ := StructBinding.store_eq_ok computed.stored
  cases nominal : r.type.isNominal with
  | true =>
    obtain ⟨declaration, d, last, found, htype⟩ := ends.declared wellFormed nominal
    obtain ⟨type, _⟩ := r
    cases htype
    cases last
    exact ⟨_, treats_classed sound named computed ends found nominal⟩
  | false =>
    rcases treats_structural sound computed ends nominal with wide | plain
    · exact ⟨_, wide⟩
    · exact ⟨_, plain⟩

end Names

/-! ## All fields of a struct -/

/-- A record and a binding show a struct by the same views, one for each exposed field in order. -/
structure Shows (r : Record) (b : StructBinding) (fields : Fields) (views : List FieldView) :
    Prop where
  exposed : views.map (·.field) = Fields.exposed fields
  record : r.fields = views.map fun v => ⟨v.field.name, v.hint, v.default⟩
  stored : b.stored = views.map fun v => (v.field.name, v.stored)
  restored : b.restored = some (views.map fun v => (v.field.name, v.restored))
  layout : ∀ v ∈ views, (v.field.name, v.ctype) ∈ b.layout

/-- The lines of the record and the binding of a name are those of views: for each an annotated
field in the record, an argument of the constructor, one of the converter, and an entry in the list
of fields. -/
structure ShownBy (r : Record) (b : StructBinding) (name : String) (views : List FieldView) :
    Prop where
  record : r.lines = ["@dataclass", s!"class {name}:"] ++
    (if views.isEmpty then ["    pass"] else []) ++
    views.map (fun v => s!"    {v.field.name}: {v.hint.text} = {v.default.text}") ++ ["", ""]
  construction : ["        return cls("] ++
    views.map (fun v => s!"            {v.field.name}={v.stored.text v.field.name},") ++
    ["        )"] <:+: b.lines
  conversion : ["    def to_python(self):", s!"        return {name}("] ++
    views.map (fun v => s!"            {v.field.name}={v.restored.text v.field.name},") ++
    ["        )"] <:+: b.lines
  layout : ∀ v ∈ views, s!"    (\"{v.field.name}\", {v.ctype.text})," ∈ b.lines

theorem Shows.shownBy {r : Record} {b : StructBinding} {fields : Fields} {views : List FieldView}
    {name : String} (shows : Shows r b fields views) (recordName : r.name = name)
    (bindingName : b.name = name) : ShownBy r b name views where
  record := by
    rw [Record.lines, recordName, shows.record, List.map_map, List.isEmpty_map]
    rfl
  construction := by
    have arguments : b.stored.map (fun f => StructBinding.argument f.1 (f.2.text f.1)) =
        views.map (fun v => s!"            {v.field.name}={v.stored.text v.field.name},") := by
      rw [shows.stored, List.map_map]
      rfl
    rw [← arguments]
    exact b.construction_infix_lines
  conversion := by
    have converted := StructBinding.conversion_infix_lines shows.restored
    rw [bindingName, List.map_map] at converted
    exact converted
  layout v hv := b.mem_lines_of_mem_layout (shows.layout v hv)

theorem exists_views {owner : String} {fields : Fields} {recorded : List RecordField}
    {inward : List (Option BoundsCheck × String × Stored)} {outward : List (String × Restored)}
    (hrecorded : fields.mapM (Record.field names owner) = .ok recorded)
    (hinward : fields.mapM (StructBinding.checkAndStore names owner) = .ok inward)
    (houtward : fields.mapM (StructBinding.restore names) = .ok outward)
    (hlayout : ∀ f ∈ fields, ∃ field, StructBinding.layoutField names owner f = .ok field) :
    ∃ views : List FieldView, views.map (·.field) = fields ∧
      recorded = views.map (fun v => ⟨v.field.name, v.hint, v.default⟩) ∧
      inward.map (·.2) = views.map (fun v => (v.field.name, v.stored)) ∧
      outward = views.map (fun v => (v.field.name, v.restored)) ∧
      ∀ v ∈ views, v.Computed names owner := by
  induction fields generalizing recorded inward outward with
  | nil =>
    cases hrecorded
    cases hinward
    cases houtward
    exact ⟨[], rfl, rfl, rfl, rfl, by simp⟩
  | cons f rest ih =>
    simp only [List.mapM_cons, bind_eq_ok, pure_eq_ok] at hrecorded hinward houtward
    obtain ⟨recordField, hrecordField, recorded, hrecorded, rfl⟩ := hrecorded
    obtain ⟨inwardField, hinwardField, inward, hinward, rfl⟩ := hinward
    obtain ⟨⟨name, restored⟩, hrestored, outward, houtward, rfl⟩ := houtward
    obtain ⟨views, same, sameRecord, sameStored, sameRestored, computed⟩ :=
      ih hrecorded hinward houtward fun f hf => hlayout f (List.mem_cons_of_mem _ hf)
    obtain ⟨⟨name', ctype⟩, lowered⟩ := hlayout f List.mem_cons_self
    obtain rfl := (StructBinding.layoutField_eq_ok_iff.mp lowered).1
    obtain rfl := (StructBinding.restore_eq_ok hrestored).1
    obtain ⟨stored, hstored, sameField⟩ := StructBinding.checkAndStore_eq_ok hinwardField
    simp only [Record.field, bind_eq_ok, pure_eq_ok] at hrecordField
    obtain ⟨hint, hinted, default, defaulted, rfl⟩ := hrecordField
    refine ⟨⟨f, hint, default, stored, restored, ctype⟩ :: views, ?_, ?_, ?_, ?_, ?_⟩
    · simp [same]
    · simp [sameRecord]
    · simp [sameStored, sameField]
    · simp [sameRestored]
    · exact List.forall_mem_cons.mpr ⟨⟨⟨_, hinted⟩, ⟨_, defaulted⟩, hstored, hrestored, lowered⟩,
        computed⟩

namespace Composition

variable {c : Composition}

/-- The record and the binding of a declared struct agree: the record, the constructor and the
converter have the exposed fields in the order of the declaration, also in their lines, and every
such field is treated in exactly one way by all of them. -/
theorem record_and_binding_agree {protocol domain : Document}
    (composed : compose protocol domain = .ok c) {type name : String} {d : Declaration}
    {fields : Fields} (found : c.types.find? type = some d) (struct : d.type = .struct .cAbi fields)
    {r : Record} {b : StructBinding} (recorded : Record.build c.names d name = .ok r)
    (bound : StructBinding.build c.names d name true = .ok b) :
    r.fields.map (·.name) = (Fields.exposed fields).map (·.name) ∧
      b.stored.map (·.1) = (Fields.exposed fields).map (·.name) ∧
      b.restored.map (·.map (·.1)) = some ((Fields.exposed fields).map (·.name)) ∧
      ∃ views, Shows r b fields views ∧ ShownBy r b name views ∧
        ∀ v ∈ views, ∃! t, c.names.Treats v t := by
  have sound := sound_of_compose composed
  obtain ⟨fields', struct', recordName, hrecorded⟩ := Record.build_eq_ok_iff.mp recorded
  obtain rfl : fields = fields' := by simpa [struct] using struct'
  obtain ⟨fields', built⟩ := StructBinding.builtFrom_of_build bound
  obtain rfl : fields = fields' := by simpa [struct] using built.struct
  obtain ⟨inward, hinward, -, sameStored⟩ := built.inward
  obtain ⟨outward, houtward, sameRestored⟩ := built.restored
  have laidOut : ∀ f ∈ Fields.exposed fields,
      ∃ field, StructBinding.layoutField c.names d.name f = .ok field :=
    fun f hf => isOk_of_mapM built.layout (Fields.mem_of_mem_exposed hf)
  obtain ⟨views, exposed, record, stored, restored, computed⟩ :=
    exists_views hrecorded hinward houtward laidOut
  have mem_fields : ∀ v ∈ views, v.field ∈ fields := fun v hv =>
    Fields.mem_of_mem_exposed (exposed ▸ List.mem_map_of_mem hv)
  have shows : Shows r b fields views := {
    exposed
    record
    stored := sameStored.trans stored
    restored := by rw [sameRestored, restored]
    layout := fun v hv => (mem_iff_of_mapM built.layout).mpr
      ⟨v.field, mem_fields v hv, (computed v hv).ctype⟩ }
  have names : views.map (·.field.name) = (Fields.exposed fields).map (·.name) := by
    rw [← exposed, List.map_map]
    rfl
  refine ⟨?_, ?_, ?_, views, shows, shows.shownBy recordName built.named, fun v hv => ?_⟩
  · rw [shows.record, ← names, List.map_map]
    rfl
  · rw [shows.stored, ← names, List.map_map]
    rfl
  · rw [shows.restored, ← names, Option.map_some, List.map_map]
    rfl
  · have wellFormed := sound.types.field_wellFormed found struct v.field (mem_fields v hv)
    exact c.names.existsUnique_treatment sound.types sound.names wellFormed (computed v hv)

/-- A document with a struct that has a field of every treatment, some of them behind aliases. -/
def mixedFields : Document :=
  .ofDeclarations
    [⟨"kind_t", .enum 8 [⟨"plain", 0⟩]⟩, ⟨"kind_alias_t", .ref "kind_t"⟩,
      ⟨"flags_t", .struct .packed [⟨"linked", .bool, false⟩, ⟨"padding", .int 7 false, false⟩]⟩,
      ⟨"id_t", .int 128 false⟩,
      ⟨"mixed_t", .struct .cAbi [⟨"kind", .ref "kind_alias_t", false⟩,
        ⟨"flags", .ref "flags_t", false⟩, ⟨"id", .ref "id_t", false⟩,
        ⟨"reserved", .int 64 false, true⟩, ⟨"tag", .array (.int 8 false) 4, false⟩]⟩]
    [("kind_t", "Kind"), ("flags_t", "Flags"), ("mixed_t", "Mixed")]

theorem record_and_binding_agree_mixedFields : ∃ c d fields r b,
    compose .bareProtocol mixedFields = .ok c ∧ c.types.find? "mixed_t" = some d ∧
      d.type = .struct .cAbi fields ∧ Record.build c.names d "Mixed" = .ok r ∧
      StructBinding.build c.names d "Mixed" true = .ok b ∧
      r.fields.map (·.name) = ["kind", "flags", "id", "tag"] ∧
      ∃ views, Shows r b fields views ∧ ShownBy r b "Mixed" views ∧
        ∀ v ∈ views, ∃! t, c.names.Treats v t := by
  refine ⟨_, _, _, _, _, rfl, rfl, rfl, rfl, rfl, rfl, ?_⟩
  exact (@record_and_binding_agree _ .bareProtocol mixedFields rfl "mixed_t" "Mixed" _ _ rfl rfl _ _
    rfl rfl).2.2.2

end Composition
end NativeBindings
