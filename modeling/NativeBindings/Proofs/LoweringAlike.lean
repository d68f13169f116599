import NativeBindings.Proofs.FollowedReferences
import NativeBindings.Proofs.PairedRuns
import NativeBindings.Proofs.Renaming

/-!
# Types that are lowered alike

Two types, each over name tables of its own, are lowered alike (`LowersAlike`) if every walk ends
alike on them: packed widths, representations, type hints, defaults, and what they resolve to.

* `Names.Alike`: the tables give the same generated names to native names that correspond under a
  renaming `ρ`. Without a renaming, `ρ` is the identity.
* `LowersAlike.leaf`, `array`, `pointer` and `mention` follow the constructors of types; a mention
  is lowered like a mention of a declaration that is alike (`DeclaredAlike`).
* `LowersAlike.follow_left` and `follow_right`: a mention of an alias is lowered like the alias's
  type, on either side.
* `Names.Alike.lowersAlike` and `Names.Alike.declaredAlike`: a change along the structure of types
  (`NativeType.ActsAlong`) only has to be looked at where types mention declarations.
-/
namespace NativeBindings

variable {ρ : String ↪ String} {names names' : Names} {type type' : NativeType}

/-! ## Tables that name the same -/

/-- Both tables give the same generated names, under native names that correspond. -/
structure Names.Alike (ρ : String ↪ String) (names names' : Names) : Prop where
  types : names.types.Sound
  types' : names'.types.Sound
  protocol : names'.protocol.mappings = names.protocol.mappings.map (·.rename ρ)
  domain : names'.domain.mappings = names.domain.mappings.map (·.rename ρ)

namespace Names.Alike

variable (h : names.Alike ρ names')
include h

theorem lookup (type : String) : names'.lookup (ρ type) = names.lookup type := by
  rw [Names.lookup, Names.lookup, NameTable.lookup_rename h.protocol,
    NameTable.lookup_rename h.domain]

theorem lookupDomain (type : String) : names'.lookupDomain (ρ type) = names.lookupDomain type :=
  NameTable.lookup_rename h.domain type

theorem require (type context context' : String) :
    EndAlike ρ (· = ·) (names.require type context) (names'.require (ρ type) context') := by
  rw [Names.require, Names.require, h.lookup]
  cases names.lookup type with
  | some name => exact .ok rfl
  | none => exact .error (.unmapped type context context')

theorem requireDomain (type context context' : String) :
    EndAlike ρ (· = ·) (names.requireDomain type context)
      (names'.requireDomain (ρ type) context') := by
  rw [Names.requireDomain, Names.requireDomain, h.lookupDomain]
  cases names.lookupDomain type with
  | some name => exact .ok rfl
  | none => exact .error (.unmappedInDomain type context context')

end Names.Alike

/-! ## Types and their ends -/

namespace NativeType

/-- Pointees that give pointers the same representation. -/
inductive PointeesAlike (ρ : String → String) : NativeType → NativeType → Prop
  | untyped : PointeesAlike ρ .untyped .untyped
  | ref (name : String) : PointeesAlike ρ (.ref name) (.ref (ρ name))
  | other {pointee pointee' : NativeType} (typed : pointee ≠ .untyped)
      (noRef : ∀ name, pointee ≠ .ref name) (typed' : pointee' ≠ .untyped)
      (noRef' : ∀ name, pointee' ≠ .ref name) : PointeesAlike ρ pointee pointee'

/-- A type that holds no other. -/
def isLeaf : NativeType → Bool
  | bool | void | untyped | int _ _ | float _ => true
  | _ => false

/-- Induction over well-formed types, in which no enum or struct is nested. What a pointer points to
is not held by value and has no part in it. -/
@[elab_as_elim]
theorem WellFormed.induction {types : Registry}
    {motive : (type : NativeType) → type.WellFormed types → Prop}
    (leaf : ∀ type wellFormed, type.isLeaf = true → motive type wellFormed)
    (ref : ∀ name wellFormed, motive (.ref name) wellFormed)
    (array : ∀ element length (wellFormed : (NativeType.array element length).WellFormed types),
      motive element wellFormed.2 → motive (.array element length) wellFormed)
    (pointer : ∀ pointee nullable wellFormed, motive (.pointer pointee nullable) wellFormed) :
    ∀ {type : NativeType} (wellFormed : type.WellFormed types), motive type wellFormed
  | .ref name, wellFormed => ref name wellFormed
  | .array element length, wellFormed => by
    refine array element length wellFormed ?_
    exact WellFormed.induction leaf ref array pointer wellFormed.2
  | .pointer pointee nullable, wellFormed => pointer pointee nullable wellFormed
  | .enum _ _, wellFormed => wellFormed.elim
  | .struct _ _, wellFormed => wellFormed.elim
  | .bool, wellFormed | .void, wellFormed | .untyped, wellFormed => leaf _ wellFormed rfl
  | .int _ _, wellFormed | .float _, wellFormed => leaf _ wellFormed rfl

/-- Types that differ in nothing but the types inside them. -/
inductive SameHead : NativeType → NativeType → Prop
  | leaf {type : NativeType} (h : type.isLeaf = true) : SameHead type type
  | enum (tagBits : Int) (variants : List Variant) :
      SameHead (.enum tagBits variants) (.enum tagBits variants)
  | array (element element' : NativeType) (length : Int) :
      SameHead (.array element length) (.array element' length)
  | pointer (pointee pointee' : NativeType) (nullable : Bool) :
      SameHead (.pointer pointee nullable) (.pointer pointee' nullable)
  | struct (layout : Layout) (fields fields' : Fields) :
      SameHead (.struct layout fields) (.struct layout fields')

namespace SameHead

theorem isWide_eq (h : type.SameHead type') : type'.isWide = type.isWide := by cases h <;> rfl

theorem isNominal_eq (h : type.SameHead type') : type'.isNominal = type.isNominal := by
  cases h <;> rfl

end SameHead

theorem ne_ref_of_nominal (h : type.isNominal = true) (name : String) : type ≠ .ref name := by
  rintro rfl
  cases h

end NativeType

/-- Ends that are the same on the outside. Where the end is an enum or a struct, the declarations it
is of correspond; an alias that was followed to another end does not matter. -/
structure Resolved.Alike (ρ : String → String) (r r' : Resolved) : Prop where
  head : r.type.SameHead r'.type
  declaration : r.type.isNominal = true → r'.declaration = r.declaration.map ρ

/-! ## Lowering alike -/

/-- Every walk ends alike on both types, whatever messages say where the types stand. -/
structure LowersAlike (ρ : String → String) (names names' : Names) (type type' : NativeType) :
    Prop where
  packedWidth : ∀ context context', EndAlike ρ (· = ·) (names.types.packedWidth type context)
    (names'.types.packedWidth type' context')
  ctype : ∀ context context', EndAlike ρ (· = ·) (names.ctype type context)
    (names'.ctype type' context')
  hint : ∀ context context', EndAlike ρ (· = ·) (names.hint type context)
    (names'.hint type' context')
  defaultValue : ∀ context context', EndAlike ρ (· = ·) (names.defaultValue type context)
    (names'.defaultValue type' context')
  ends : ∃ r r', names.types.ResolvesTo type r ∧ names'.types.ResolvesTo type' r' ∧ r.Alike ρ r'

theorem Ctype.ofBits_alike {ρ : String → String} (bits : Int) (context context' : String) :
    EndAlike ρ (· = ·) (Ctype.ofBits bits context) (Ctype.ofBits bits context') := by
  unfold Ctype.ofBits
  cases CtypeWidth.ofBits? bits with
  | some width => exact .ok rfl
  | none => exact .error (.noCtypeOfWidth bits context context')

namespace LowersAlike

theorem leaf {ρ : String → String} (names names' : Names) (h : type.isLeaf = true) :
    LowersAlike ρ names names' type type where
  packedWidth context context' := by
    cases type with
    | bool => exact .ok rfl
    | int bits signed =>
      cases signed with
      | true => exact .error (.packedSigned _ context context')
      | false => exact .ok rfl
    | void | untyped | float => exact .error (.packedUnsupported _ _ context context')
    | _ => cases h
  ctype context context' := by
    cases type with
    | bool | void => exact .ok rfl
    | int bits signed =>
      cases signed with
      | true => exact .error (.signedInteger _ context context')
      | false => exact Ctype.ofBits_alike bits context context'
    | untyped | float => exact .error (.noCtype _ context context')
    | _ => cases h
  hint context context' := by
    cases type with
    | bool | void => exact .ok rfl
    | int bits signed =>
      cases signed with
      | true => exact .error (.signedInteger _ context context')
      | false => exact .ok rfl
    | untyped | float => exact .error (.noValueType _ _ context context')
    | _ => cases h
  defaultValue context context' := by
    cases type with
    | bool | void | int => exact .ok rfl
    | untyped | float => exact .error (.noDefault _ _ context context')
    | _ => cases h
  ends := by
    have noRef : ∀ name, type ≠ .ref name := by
      rintro name rfl
      cases h
    have structural : type.isNominal = false := by cases type <;> first | rfl | cases h
    exact ⟨_, _, .here noRef, .here noRef, .leaf h, fun nominal => by simp [structural] at nominal⟩

theorem array {ρ : String → String} (h : LowersAlike ρ names names' type type') (length : Int) :
    LowersAlike ρ names names' (.array type length) (.array type' length) where
  packedWidth context context' := .error (.packedUnsupported _ _ context context')
  ctype context context' :=
    (h.ctype (context ++ "[]") (context' ++ "[]")).map_eq (Ctype.array · length)
  hint context context' :=
    (h.hint (context ++ "[]") (context' ++ "[]")).map_eq (TypeHint.array · length)
  defaultValue context context' :=
    (h.defaultValue (context ++ "[]") (context' ++ "[]")).map_eq (DefaultValue.repeated · length)
  ends := ⟨_, _, .here (by rintro _ ⟨⟩), .here (by rintro _ ⟨⟩), .array type type' length,
    fun nominal => by cases nominal⟩

theorem pointer (alike : names.Alike ρ names') (h : type.PointeesAlike ρ type') (nullable : Bool) :
    LowersAlike ρ names names' (.pointer type nullable) (.pointer type' nullable) where
  packedWidth context context' := .error (.packedUnsupported _ _ context context')
  ctype context context' := by
    show EndAlike ρ _ (names.pointerCtype type context) (names'.pointerCtype type' context')
    cases h with
    | untyped => exact .ok rfl
    | ref name => exact (alike.require name context context').map_eq Ctype.pointer
    | other typed noRef typed' noRef' =>
      rw [Names.pointerCtype.eq_3 _ _ _ typed noRef, Names.pointerCtype.eq_3 _ _ _ typed' noRef']
      exact .error (.pointerTarget _ _ context context')
  hint context context' := .error (.noValueType _ _ context context')
  defaultValue context context' := .error (.noDefault _ _ context context')
  ends := ⟨_, _, .here (by rintro _ ⟨⟩), .here (by rintro _ ⟨⟩), .pointer type type' nullable,
    fun nominal => by cases nominal⟩

/-! ### Aliases -/

section Follow

variable {ρ : String → String} {name : String} {d : Declaration}
  (structural : d.type.isNominal = false)
include structural

/-- A mention of an alias is lowered like the alias's type. -/
theorem follow_left (sound : names.types.Sound) (found : names.types.find? name = some d)
    (h : LowersAlike ρ names names' d.type type') :
    LowersAlike ρ names names' (.ref name) type' where
  packedWidth context context' := by
    rw [sound.packedWidth_ref found]
    exact h.packedWidth context context'
  ctype context context' := by
    rw [Names.ctype_ref sound found]
    exact h.ctype _ context'
  hint context context' := by
    rw [Names.hint_ref sound found, structural]
    exact h.hint _ context'
  defaultValue context context' := by
    rw [Names.defaultValue_ref sound found,
      Names.defaultOfDeclaration_of_structural names _ name context structural]
    exact h.defaultValue _ context'
  ends := by
    obtain ⟨r, r', leads, leads', head, declaration⟩ := h.ends
    refine ⟨_, r', .ref found leads, leads', head, fun nominal => ?_⟩
    obtain ⟨last, isLast⟩ := leads.declaration_isSome structural nominal
    rw [declaration nominal, isLast]
    rfl

theorem follow_right (sound : names'.types.Sound) (found : names'.types.find? name = some d)
    (h : LowersAlike ρ names names' type d.type) :
    LowersAlike ρ names names' type (.ref name) where
  packedWidth context context' := by
    rw [sound.packedWidth_ref found]
    exact h.packedWidth context context'
  ctype context context' := by
    rw [Names.ctype_ref sound found]
    exact h.ctype context _
  hint context context' := by
    rw [Names.hint_ref sound found, structural]
    exact h.hint context _
  defaultValue context context' := by
    rw [Names.defaultValue_ref sound found,
      Names.defaultOfDeclaration_of_structural names' _ name context' structural]
    exact h.defaultValue context _
  ends := by
    obtain ⟨r, r', leads, leads', head, declaration⟩ := h.ends
    refine ⟨r, _, leads, .ref found leads', head, fun nominal => ?_⟩
    obtain ⟨last, isLast⟩ := leads'.declaration_isSome structural (head.isNominal_eq.trans nominal)
    rw [← declaration nominal, isLast]
    rfl

end Follow

end LowersAlike

/-! ## Declarations -/

/-- Fields under one name whose types are lowered alike. -/
structure FieldAlike (ρ : String → String) (names names' : Names) (f f' : Field NativeType) :
    Prop where
  name : f'.name = f.name
  reserved : f'.reserved = f.reserved
  type : LowersAlike ρ names names' f.type f'.type

/-- The types of declarations that everything is generated alike for. -/
inductive DeclaredAlike (ρ : String → String) (names names' : Names) :
    NativeType → NativeType → Prop
  | enum (tagBits : Int) (variants : List Variant) :
      DeclaredAlike ρ names names' (.enum tagBits variants) (.enum tagBits variants)
  | struct {fields fields' : Fields} (layout : Layout)
      (each : List.Forall₂ (FieldAlike ρ names names') fields fields') :
      DeclaredAlike ρ names names' (.struct layout fields) (.struct layout fields')
  | structural {type type' : NativeType} (structural : type.isNominal = false)
      (structural' : type'.isNominal = false) (h : LowersAlike ρ names names' type type') :
      DeclaredAlike ρ names names' type type'

/-- Packed structs of alike fields have the same width. -/
theorem packedFieldsWidth_alike {fields fields' : Fields}
    (each : List.Forall₂ (FieldAlike ρ names names') fields fields') (context context' : String) :
    EndAlike ρ (· = ·) (names.types.packedFieldsWidth fields context)
      (names'.types.packedFieldsWidth fields' context') := by
  unfold Registry.packedFieldsWidth
  generalize (0 : Int) = before
  induction each generalizing before with
  | nil => exact .ok rfl
  | @cons f f' rest rest' first _ ih =>
    obtain ⟨name, type, reserved⟩ := f
    obtain ⟨_, type', reserved'⟩ := f'
    obtain rfl : _ = name := first.name
    simp only [packedFieldsWidthWith]
    exact (first.type.packedWidth _ _).bind_eq fun width => ih _

/-- A change of types along their structure, which decides freely only what to do with mentions. -/
structure NativeType.ActsAlong (ρ : String → String) (ψ : NativeType → NativeType) : Prop extends
    ActsInside ψ where
  leaf : ∀ type, type.isLeaf = true → ψ type = type
  array : ∀ element length, ψ (.array element length) = .array (ψ element) length
  pointer : ∀ pointee nullable, ∃ pointee',
    ψ (.pointer pointee nullable) = .pointer pointee' nullable ∧ pointee.PointeesAlike ρ pointee'

namespace Names.Alike

variable (alike : names.Alike ρ names') {ψ : NativeType → NativeType}
  (acts : NativeType.ActsAlong ρ ψ)
include alike acts

/-- A changed type is lowered as before, if the mentions that it held by value are. -/
theorem lowersAlike (wellFormed : type.WellFormed names.types)
    (mentions : ∀ held ∈ type.valueRefs, LowersAlike ρ names names' (.ref held) (ψ (.ref held))) :
    LowersAlike ρ names names' type (ψ type) := by
  induction wellFormed using NativeType.WellFormed.induction with
  | leaf type wellFormed leaf =>
    rw [acts.leaf type leaf]
    exact .leaf names names' leaf
  | ref name => exact mentions name (List.mem_singleton_self name)
  | array element length wellFormed ih =>
    rw [acts.array]
    exact (ih mentions).array length
  | pointer pointee nullable =>
    obtain ⟨pointee', changed, same⟩ := acts.pointer pointee nullable
    rw [changed]
    exact .pointer alike same nullable

/-- A changed declaration is as before, if the mentions that it held by value are lowered as
before. -/
theorem declaredAlike {name : String} {d : Declaration} (found : names.types.find? name = some d)
    (mentions : ∀ held ∈ d.type.valueRefs,
      LowersAlike ρ names names' (.ref held) (ψ (.ref held))) :
    DeclaredAlike ρ names names' d.type (ψ d.type) := by
  cases nominal : d.type.isNominal with
  | false =>
    have lowered := alike.lowersAlike acts (alike.types.alias_wellFormed found nominal) mentions
    exact .structural nominal ((acts.isNominal d.type).trans nominal) lowered
  | true =>
    cases htype : d.type with
    | enum tagBits variants =>
      rw [acts.enum]
      exact .enum tagBits variants
    | struct layout fields =>
      rw [acts.struct]
      refine .struct layout (List.forall₂_map_right_iff.mpr (List.forall₂_same.mpr fun f hf => ?_))
      have wellFormed := alike.types.field_wellFormed found htype f hf
      refine ⟨rfl, rfl, alike.lowersAlike acts wellFormed fun held mention => ?_⟩
      rw [htype] at mentions
      exact mentions held (mem_fieldValueRefs_of_mem hf mention)
    | _ => simp [htype, NativeType.isNominal] at nominal

end Names.Alike

namespace DeclaredAlike

theorem packedWidth (h : DeclaredAlike ρ names names' type type') (context context' : String) :
    EndAlike ρ (· = ·) (names.types.packedWidth type context)
      (names'.types.packedWidth type' context') := by
  cases h with
  | enum => exact .ok rfl
  | struct layout each =>
    cases layout with
    | packed => exact packedFieldsWidth_alike each context context'
    | cAbi | auto => exact .error (.packedHoldsStruct _ context context')
  | structural _ _ h => exact h.packedWidth context context'

theorem ctype (h : DeclaredAlike ρ names names' type type') (context context' : String) :
    EndAlike ρ (· = ·) (names.ctype type context) (names'.ctype type' context') := by
  cases h with
  | enum tagBits => exact Ctype.ofBits_alike tagBits context context'
  | struct layout each =>
    cases layout with
    | packed =>
      exact (packedFieldsWidth_alike each context context').bind_eq fun width =>
        Ctype.ofBits_alike width context context'
    | cAbi | auto => exact .error (.structByValue _ context context')
  | structural _ _ h => exact h.ctype context context'

theorem of_structural (h : DeclaredAlike ρ names names' type type')
    (structural : type.isNominal = false) :
    type'.isNominal = false ∧ LowersAlike ρ names names' type type' := by
  cases h with
  | structural _ structural' h => exact ⟨structural', h⟩
  | enum => cases structural
  | struct => cases structural

theorem of_struct {layout : Layout} {fields : Fields}
    (h : DeclaredAlike ρ names names' (.struct layout fields) type') : ∃ fields',
      type' = .struct layout fields' ∧ List.Forall₂ (FieldAlike ρ names names') fields fields' := by
  cases h with
  | struct _ each => exact ⟨_, rfl, each⟩
  | structural structural => cases structural

/-- Declarations are alike on the outside, if they are of enums or structs. -/
theorem sameHead (h : DeclaredAlike ρ names names' type type') (nominal : type.isNominal = true) :
    type.SameHead type' := by
  cases h with
  | enum tagBits variants => exact .enum tagBits variants
  | struct layout each => exact .struct layout _ _
  | structural structural => simp [structural] at nominal

/-- The default of a mention of an enum or a struct. -/
theorem default (alike : names.Alike ρ names') {d d' : Declaration}
    (h : DeclaredAlike ρ names names' d.type d'.type) (nominal : d.type.isNominal = true)
    (renamed : d'.name = ρ d.name) (onReference onReference' : OnReference DefaultValue)
    (name name' context context' : String) :
    EndAlike ρ (· = ·) (names.defaultOfDeclaration onReference name d context)
      (names'.defaultOfDeclaration onReference' name' d' context') := by
  obtain ⟨owner, type⟩ := d
  obtain ⟨_, type'⟩ := d'
  obtain rfl : _ = ρ owner := renamed
  cases h with
  | enum => exact .ok rfl
  | struct layout each =>
    cases layout with
    | packed => exact (alike.requireDomain owner context context').map_eq DefaultValue.noFlags
    | cAbi | auto => exact .error (.structWithoutDefault _ context context')
  | structural structural => simp [structural] at nominal

end DeclaredAlike

/-- Mentions of declarations that are alike are lowered alike: through the generated name of an enum
or a struct, and as its type for an alias. -/
theorem LowersAlike.mention (alike : names.Alike ρ names') {name : String} {d d' : Declaration}
    (found : names.types.find? name = some d) (found' : names'.types.find? (ρ name) = some d')
    (h : DeclaredAlike ρ names names' d.type d'.type) :
    LowersAlike ρ names names' (.ref name) (.ref (ρ name)) := by
  cases nominal : d.type.isNominal with
  | false =>
    obtain ⟨structural', lowered⟩ := h.of_structural nominal
    have right := follow_right structural' alike.types' found' lowered
    exact follow_left nominal alike.types found right
  | true =>
    have head := h.sameHead nominal
    have nominal' := head.isNominal_eq.trans nominal
    have renamed : d'.name = ρ d.name := by
      rw [(Registry.find?_eq_some_iff.mp found').2, (Registry.find?_eq_some_iff.mp found).2]
    exact {
      packedWidth := fun context context' => by
        rw [alike.types.packedWidth_ref found, alike.types'.packedWidth_ref found']
        exact h.packedWidth context context'
      ctype := fun context context' => by
        rw [Names.ctype_ref alike.types found, Names.ctype_ref alike.types' found']
        exact h.ctype _ _
      hint := fun context context' => by
        rw [Names.hint_ref alike.types found, Names.hint_ref alike.types' found', nominal, nominal']
        exact (alike.requireDomain name context context').map_eq TypeHint.named
      defaultValue := fun context context' => by
        rw [Names.defaultValue_ref alike.types found, Names.defaultValue_ref alike.types' found']
        exact h.default alike nominal renamed _ _ name (ρ name) context context'
      ends := ⟨_, _, .ref found (.here (NativeType.ne_ref_of_nominal nominal)),
        .ref found' (.here (NativeType.ne_ref_of_nominal nominal')), head, fun _ => rfl⟩ }

/-! ## The ends of alike types -/

namespace LowersAlike

variable (alike : names.Alike ρ names')
  (h : LowersAlike ρ names names' type type')
include alike h

theorem resolve : EndAlike ρ (Resolved.Alike ρ) (names.types.resolve type)
    (names'.types.resolve type') := by
  obtain ⟨r, r', leads, leads', same⟩ := h.ends
  rw [alike.types.resolve_of_resolvesTo leads, alike.types'.resolve_of_resolvesTo leads']
  exact .ok same

theorem isWide : EndAlike ρ (· = ·) (names.isWide type) (names'.isWide type') := by
  have ends : EndAlike ρ NativeType.SameHead (names.types.underlying type)
      (names'.types.underlying type') := (h.resolve alike).map fun r r' same => same.head
  exact ends.map fun t t' head => head.isWide_eq.symm

theorem wrapper (context context' : String) :
    EndAlike ρ (· = ·) (names.wrapper type context) (names'.wrapper type' context') := by
  refine (h.resolve alike).bind fun r r' same => ?_
  obtain ⟨t, declaration⟩ := r
  obtain ⟨t', declaration'⟩ := r'
  obtain ⟨head, same⟩ := same
  simp only at head same
  rw [head.isWide_eq]
  cases wide : t.isWide with
  | true => exact .ok rfl
  | false =>
    have failed : EndAlike ρ (· = ·) (.error (.notMarshalled type context) : Except Fault Wrapper)
        (.error (.notMarshalled type' context')) := .error (.notMarshalled _ _ context context')
    cases head with
    | leaf leaf => cases t <;> first | exact failed | cases leaf
    | enum | array | pointer => exact failed
    | struct layout fields fields' =>
      cases layout with
      | packed | auto => exact failed
      | cAbi =>
        obtain rfl := same rfl
        cases declaration with
        | none => exact failed
        | some owner => exact (alike.require owner context context').map_eq Wrapper.struct

end LowersAlike

end NativeBindings
