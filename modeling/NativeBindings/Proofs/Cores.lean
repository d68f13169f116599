import NativeBindings.Proofs.FollowedReferences

/-!
# Cores of types

Following references and taking elements of arrays in turn leads from a type to its core, which is
neither an array nor a reference, past arrays of certain lengths (`Registry.HasCore`). Aliases may
stand anywhere on the way, so the lengths come from several declarations.

* `Registry.Sound.exists_core`: a well-formed type has a core, and `HasCore.unique`: only one.
* `HasCore.declared`: an enum or a struct at the core is that of a declaration.
* `WalksToCore.eq_inArrays` and `eq_ok_iff`: a walk to the core makes of a type what it makes of the
  core, inside arrays of the lengths.
* `Names.ctype_walksToCore`, `hint_walksToCore` and `defaultValue_walksToCore`: representations,
  hints and defaults are found on such walks.
-/
namespace NativeBindings

/-! ## The way to the core -/

namespace Registry

variable {types : Registry} {type : NativeType} {lengths : List Int} {r : Resolved}

/-- Behind references and arrays stands a core; the lengths of the arrays come the outermost
first. The core is that of a declaration if the last step to it was a reference. -/
inductive HasCore (types : Registry) : NativeType → List Int → Resolved → Prop
  | core {type : NativeType} {r : Resolved} (ends : types.ResolvesTo type r)
      (noArray : ∀ element length, r.type ≠ .array element length) : HasCore types type [] r
  | array {type element : NativeType} {length : Int} {declaration : Option String}
      {lengths : List Int} {r : Resolved}
      (ends : types.ResolvesTo type ⟨.array element length, declaration⟩)
      (inner : HasCore types element lengths r) : HasCore types type (length :: lengths) r

/-- The end of a well-formed type is an enum or a struct, or well formed itself. -/
theorem ResolvesTo.wellFormed (h : types.ResolvesTo type r) (sound : types.Sound)
    (wellFormed : type.WellFormed types) (structural : r.type.isNominal = false) :
    r.type.WellFormed types := by
  rcases h.declaration_type with ⟨-, same⟩ | ⟨_, d, -, found, same⟩
  · exact same ▸ wellFormed
  · rw [← same] at structural ⊢
    exact sound.alias_wellFormed found structural

namespace HasCore

theorem unique (h : types.HasCore type lengths r) {lengths' : List Int} {r' : Resolved}
    (h' : types.HasCore type lengths' r') : lengths' = lengths ∧ r' = r := by
  induction h generalizing lengths' r' with
  | core ends noArray =>
    cases h' with
    | core ends' => exact ⟨rfl, ends'.unique ends⟩
    | array ends' => exact absurd (congrArg Resolved.type (ends.unique ends')) (noArray _ _)
  | array ends _ ih =>
    cases h' with
    | core ends' noArray =>
      exact absurd (congrArg Resolved.type (ends'.unique ends)) (noArray _ _)
    | array ends' inner =>
      cases ends.unique ends'
      obtain ⟨rfl, rfl⟩ := ih inner
      exact ⟨rfl, rfl⟩

theorem not_ref (h : types.HasCore type lengths r) (name : String) : r.type ≠ .ref name := by
  induction h with
  | core ends => exact ends.not_ref name
  | array _ _ ih => exact ih

theorem not_array (h : types.HasCore type lengths r) (element : NativeType) (length : Int) :
    r.type ≠ .array element length := by
  induction h with
  | core _ noArray => exact noArray element length
  | array _ _ ih => exact ih

/-- A mention of a declaration has the core of the declaration. -/
theorem exists_of_ref {name : String} {d : Declaration} (found : types.find? name = some d)
    (h : types.HasCore d.type lengths r) : ∃ r', types.HasCore (.ref name) lengths r' := by
  cases h with
  | core ends noArray => exact ⟨_, .core (.ref found ends) noArray⟩
  | array ends inner => exact ⟨_, .array (.ref found ends) inner⟩

/-- An enum or a struct at the core of a well-formed type is that of a declaration. -/
theorem declared (h : types.HasCore type lengths r) (sound : types.Sound)
    (wellFormed : type.WellFormed types) (nominal : r.type.isNominal = true) :
    ∃ name d, r.declaration = some name ∧ types.find? name = some d ∧ d.type = r.type := by
  -- A well-formed type holds no enum or struct itself, so there was a last reference.
  induction h with
  | core ends => exact ends.declared wellFormed nominal
  | array ends _ ih => exact ih (ends.wellFormed sound wellFormed rfl).2 nominal

/-- The arrays around the core of a well-formed type have positive lengths. -/
theorem lengths_positive (h : types.HasCore type lengths r) (sound : types.Sound)
    (wellFormed : type.WellFormed types) :
    ∀ length ∈ lengths, Check.isPositiveCount length = true := by
  induction h with
  | core => simp
  | array ends _ ih =>
    obtain ⟨positive, inner⟩ := ends.wellFormed sound wellFormed rfl
    exact List.forall_mem_cons.mpr ⟨positive, ih inner⟩

end HasCore

/-- A well-formed type has a core if everything that it mentions by value has one. -/
theorem exists_core_of_mentions {types : Registry} : ∀ {type : NativeType}, type.WellFormed types →
    (∀ held ∈ type.valueRefs, ∃ lengths r, types.HasCore (.ref held) lengths r) →
    ∃ lengths r, types.HasCore type lengths r
  | .ref name, _, mentions => mentions name (List.mem_singleton_self name)
  | .array element length, wellFormed, mentions => by
    obtain ⟨lengths, r, inner⟩ := exists_core_of_mentions wellFormed.2 mentions
    exact ⟨length :: lengths, r, .array (.here nofun) inner⟩
  | .enum _ _, wellFormed, _ | .struct _ _, wellFormed, _ => wellFormed.elim
  | .bool, _, _ | .void, _, _ | .untyped, _, _ => ⟨[], _, .core (.here nofun) nofun⟩
  | .int _ _, _, _ | .float _, _, _ | .pointer _ _, _, _ => ⟨[], _, .core (.here nofun) nofun⟩

/-- Over a sound registry, following references and arrays ends. -/
theorem Sound.exists_core (sound : types.Sound) (wellFormed : type.WellFormed types) :
    ∃ lengths r, types.HasCore type lengths r := by
  refine exists_core_of_mentions wellFormed fun name mention => ?_
  -- By the height of what is held by value: a declaration is above everything that it mentions.
  refine sound.held_induction name (sound.bounded_of_wellFormed wellFormed name mention).1 ?_
  intro name d found inner
  cases nominal : d.type.isNominal with
  | true =>
    have ends : types.ResolvesTo d.type ⟨d.type, none⟩ := .here fun name same => by
      rw [same] at nominal
      cases nominal
    have noArray (element : NativeType) (length : Int) : d.type ≠ .array element length :=
      fun same => by
        rw [same] at nominal
        cases nominal
    exact ⟨[], HasCore.exists_of_ref found (.core ends noArray)⟩
  | false =>
    obtain ⟨lengths, r, core⟩ :=
      exists_core_of_mentions (sound.alias_wellFormed found nominal) inner
    exact ⟨lengths, core.exists_of_ref found⟩

end Registry

/-! ## Lowering from the core -/

/-- What is made of a core, inside arrays; the length of the outermost comes first. -/
def inArrays {α : Type} (array : α → Int → α) (lengths : List Int) (core : α) : α :=
  lengths.foldr (fun length element => array element length) core

section Text

variable {α : Type} {array : α → Int → α} {text : α → String} {suffix : Int → String}

/-- If a length is written after the element, the lengths stand from the inside out. -/
theorem text_inArrays (written : ∀ element length,
    text (array element length) = text element ++ suffix length) (lengths : List Int) (core : α) :
    text (inArrays array lengths core) =
      text core ++ String.join (lengths.reverse.map suffix) := by
  induction lengths with
  | nil => simp [inArrays]
  | cons length rest ih =>
    have outermost : inArrays array (length :: rest) core =
      array (inArrays array rest core) length := rfl
    rw [outermost, written, ih, List.reverse_cons, List.map_append, String.join_append,
      String.append_assoc]
    simp

end Text

namespace Registry

variable {types : Registry} {type : NativeType} {lengths : List Int} {r : Resolved} {α : Type}
  {array : α → Int → α} {walk : NativeType → String → Except Fault α}
  {atCore : Resolved → String → Except Fault α}

/-- A walk that follows references, makes an array of what it makes of the element of an array, and
ends at the core. It is told where types stand, for its messages. -/
structure WalksToCore (types : Registry) (array : α → Int → α)
    (walk : NativeType → String → Except Fault α) (atCore : Resolved → String → Except Fault α) :
    Prop where
  array : ∀ {type element : NativeType} {length : Int} {declaration : Option String},
    types.ResolvesTo type ⟨.array element length, declaration⟩ → ∀ context,
    ∃ context', walk type context = (array · length) <$> walk element context'
  core : ∀ {type : NativeType} {r : Resolved}, types.ResolvesTo type r →
    type.WellFormed types → (∀ element length, r.type ≠ .array element length) →
    ∀ context, ∃ context', walk type context = atCore r context'

namespace WalksToCore

variable (h : types.WalksToCore array walk atCore)
include h

/-- What is made of a type is made of its core, and put inside the arrays. -/
theorem eq_inArrays (sound : types.Sound) (core : types.HasCore type lengths r)
    (wellFormed : type.WellFormed types) (context : String) :
    ∃ context', walk type context = inArrays array lengths <$> atCore r context' := by
  induction core generalizing context with
  | core ends noArray =>
    obtain ⟨context', same⟩ := h.core ends wellFormed noArray context
    exact ⟨context', by rw [same]; exact (id_map _).symm⟩
  | array ends _ ih =>
    obtain ⟨inside, same⟩ := h.array ends context
    obtain ⟨context', element⟩ := ih (ends.wellFormed sound wellFormed rfl).2 inside
    exact ⟨context', by rw [same, element, ← comp_map]; rfl⟩

/-- A type is accepted exactly if its core is. -/
theorem eq_ok_iff (sound : types.Sound) (core : types.HasCore type lengths r)
    (wellFormed : type.WellFormed types) {result : α → Prop}
    (accepted : ∀ context made, atCore r context = .ok made ↔ result made) {context : String}
    {made : α} : walk type context = .ok made ↔
      ∃ inner, result inner ∧ made = inArrays array lengths inner := by
  obtain ⟨context', same⟩ := h.eq_inArrays sound core wellFormed context
  simp only [same, map_eq_ok, accepted, eq_comm (a := made)]

theorem isOk_iff (sound : types.Sound) (core : types.HasCore type lengths r)
    (wellFormed : type.WellFormed types) {result : α → Prop}
    (accepted : ∀ context made, atCore r context = .ok made ↔ result made) {context : String} :
    (∃ made, walk type context = .ok made) ↔ ∃ inner, result inner := by
  simp only [h.eq_ok_iff sound core wellFormed accepted]
  constructor
  · rintro ⟨_, inner, found, -⟩
    exact ⟨inner, found⟩
  · rintro ⟨inner, found⟩
    exact ⟨_, inner, found, rfl⟩

end WalksToCore
end Registry

namespace Names

open Registry

variable {names : Names} {type : NativeType} {r : Resolved}

theorem ctype_walksToCore (sound : names.types.Sound) :
    names.types.WalksToCore .array names.ctype fun r => names.ctype r.type where
  array ends context := by
    obtain ⟨context', same⟩ := ctype_of_resolvesTo sound ends context
    exact ⟨context' ++ "[]", same⟩
  core ends _ _ := ctype_of_resolvesTo sound ends

/-- The type hint of a core: the class of an enum or a struct. -/
def coreHint (names : Names) (r : Resolved) (context : String) : Except Fault TypeHint :=
  match r.type.isNominal, r.declaration with
  | true, some declaration => .named <$> names.requireDomain declaration context
  | _, _ => names.hint r.type context

theorem hint_walksToCore (sound : names.types.Sound) :
    names.types.WalksToCore .array names.hint names.coreHint where
  array ends context := by
    obtain ⟨context', same⟩ := hint_of_resolvesTo sound ends rfl context
    exact ⟨context' ++ "[]", same⟩
  core {type r} ends wellFormed _ context := by
    cases nominal : r.type.isNominal with
    | true =>
      obtain ⟨declaration, _, last, -⟩ := ends.declared wellFormed nominal
      obtain ⟨context', same⟩ := hint_of_resolvesTo_nominal sound ends nominal last context
      exact ⟨context', by rw [same, coreHint, nominal, last]⟩
    | false =>
      obtain ⟨context', same⟩ := hint_of_resolvesTo sound ends nominal context
      exact ⟨context', by rw [same, coreHint, nominal]⟩

/-- The default of a core. -/
def coreDefault (names : Names) (r : Resolved) (context : String) : Except Fault DefaultValue :=
  match r.type, r.declaration with
  | .enum _ _, some _ => .ok .zero
  | .struct .packed _, some declaration => .noFlags <$> names.requireDomain declaration context
  | .struct layout _, some _ => .error (.structWithoutDefault layout context)
  | type, _ => names.defaultValue type context

theorem coreDefault_of_declared {onReference : OnReference DefaultValue} {declaration : String}
    {d : Declaration} (last : r.declaration = some declaration)
    (found : names.types.find? declaration = some d) (same : d.type = r.type)
    (nominal : r.type.isNominal = true) (context : String) :
    names.defaultOfDeclaration onReference declaration d context = names.coreDefault r context := by
  obtain ⟨type, _⟩ := r
  obtain rfl := last
  rw [defaultOfDeclaration, coreDefault, (find?_eq_some_iff.mp found).2, same]
  cases type with
  | enum tagBits variants => rfl
  | struct layout fields => cases layout <;> rfl
  | _ => cases nominal

theorem coreDefault_of_structural (structural : r.type.isNominal = false) (context : String) :
    names.coreDefault r context = names.defaultValue r.type context := by
  rw [coreDefault]
  cases htype : r.type with
  | enum tagBits variants => simp [htype, NativeType.isNominal] at structural
  | struct layout fields => simp [htype, NativeType.isNominal] at structural
  | _ => rfl

theorem defaultValue_walksToCore (sound : names.types.Sound) :
    names.types.WalksToCore .repeated names.defaultValue names.coreDefault where
  array ends context := by
    obtain ⟨context', same⟩ := defaultValue_of_resolvesTo sound ends rfl context
    exact ⟨context' ++ "[]", same⟩
  core {type r} ends wellFormed _ context := by
    cases nominal : r.type.isNominal with
    | true =>
      obtain ⟨declaration, d, last, found, same⟩ := ends.declared wellFormed nominal
      obtain ⟨context', lowered⟩ :=
        defaultValue_of_resolvesTo_nominal sound ends nominal last found context
      exact ⟨context', lowered.trans (coreDefault_of_declared last found same nominal context')⟩
    | false =>
      obtain ⟨context', lowered⟩ := defaultValue_of_resolvesTo sound ends nominal context
      exact ⟨context', lowered.trans (coreDefault_of_structural nominal context').symm⟩

end Names
end NativeBindings
