import NativeBindings.Proofs.LoweringFaults

/-!
# Following references

Every walk over types counts the references that it may still follow. Over a sound registry the
count is never used up, so it does not matter (`Registry.Unrolls.walk_size`), and each walk has a
plain equation at a reference: it goes on with the type of the declaration
(`Registry.Sound.packedWidth_ref`, `Names.ctype_ref`, `Names.hint_ref`, `Names.defaultValue_ref`).

`Registry.ResolvesTo` is what following aliases means without a count. The walk finds it
(`Registry.Sound.resolve_eq_ok_iff`), and what a type is lowered to is what its end is lowered to
(`Names.ctype_of_resolvesTo`, `Names.hint_of_resolvesTo`, `Names.defaultValue_of_resolvesTo`).
-/
namespace NativeBindings

variable {α : Type}

/-! ## Counting does not matter -/

namespace Registry

variable {types : Registry}

/-- A walk that follows at most a number of references. At a reference it unrolls the declaration,
and what it makes of a declaration depends on nothing but what it makes of the references that the
declaration holds by value. -/
structure Unrolls (types : Registry) (walk : Nat → OnReference α)
    (unroll : OnReference α → String → Declaration → String → Except Fault α) : Prop where
  step : ∀ depth name context, walk (depth + 1) name context =
    types.get name >>= fun d => unroll (walk depth) name d context
  congr : ∀ (name : String) (d : Declaration) (onReference onReference' : OnReference α),
    (∀ held ∈ d.type.valueRefs, onReference held = onReference' held) →
    unroll onReference name d = unroll onReference' name d

variable {walk : Nat → OnReference α}
  {unroll : OnReference α → String → Declaration → String → Except Fault α}

theorem Unrolls.step_of_find? (h : types.Unrolls walk unroll) {name : String} {d : Declaration}
    (found : types.find? name = some d) (depth : Nat) :
    walk (depth + 1) name = unroll (walk depth) name d := by
  funext context
  rw [h.step, get_eq_ok_iff.mpr found]
  rfl

/-- Any two counts above the height of a name give the same. -/
theorem Unrolls.walk_eq (h : types.Unrolls walk unroll) (sound : types.Sound) :
    ∀ (depth : Nat) (name : String), types.has name = true → types.height name < depth →
      ∀ depth', types.height name < depth' → walk depth name = walk depth' name := by
  refine sound.reference_induction fun depth name d found inner depth' low => ?_
  obtain ⟨rest, rfl⟩ : ∃ rest, depth' = rest + 1 := ⟨depth' - 1, by omega⟩
  rw [h.step_of_find? found, h.step_of_find? found]
  refine h.congr name d _ _ fun held mention => ?_
  have lower := (sound.bounded_of_find? found held mention).2
  exact inner held mention rest (by omega)

/-- Counting to the number of declarations is not to count at all. -/
theorem Unrolls.walk_size (h : types.Unrolls walk unroll) (sound : types.Sound) {name : String}
    {d : Declaration} (found : types.find? name = some d) :
    walk types.size name = unroll (walk types.size) name d := by
  have low := sound.height_lt_size (has_of_find? found)
  obtain ⟨rest, size⟩ : ∃ rest, types.size = rest + 1 := ⟨types.size - 1, by omega⟩
  rw [size, h.step_of_find? found]
  refine h.congr name d _ _ fun held mention => ?_
  obtain ⟨declared, lower⟩ := sound.bounded_of_find? found held mention
  exact h.walk_eq sound rest held declared (by omega) (rest + 1) (by omega)

end Registry

/-! ## Packed widths -/

mutual

theorem packedWidthWith_congr {onReference onReference' : OnReference Int} :
    ∀ (type : NativeType) (context : String),
      (∀ held ∈ type.valueRefs, onReference held = onReference' held) →
      packedWidthWith onReference type context = packedWidthWith onReference' type context
  | .ref name, context, same => by
    simp only [packedWidthWith, same name (by simp [NativeType.valueRefs])]
  | .struct layout fields, context, same => by
    cases layout with
    | packed =>
      simp only [packedWidthWith]
      exact packedFieldsWidthWith_congr fields 0 context same
    | cAbi => simp only [packedWidthWith]
    | auto => simp only [packedWidthWith]
  | .bool, _, _ | .void, _, _ | .untyped, _, _ | .float _, _, _ | .enum _ _, _, _ => by
    simp only [packedWidthWith]
  | .int _ _, _, _ | .array _ _, _, _ | .pointer _ _, _, _ => by simp only [packedWidthWith]

theorem packedFieldsWidthWith_congr {onReference onReference' : OnReference Int} :
    ∀ (fields : Fields) (before : Int) (context : String),
      (∀ held ∈ fieldValueRefs fields, onReference held = onReference' held) →
      packedFieldsWidthWith onReference before fields context =
        packedFieldsWidthWith onReference' before fields context
  | [], _, _, _ => rfl
  | ⟨name, type, _⟩ :: rest, before, context, same => by
    simp only [fieldValueRefs, List.mem_append, or_imp, forall_and] at same
    have first := packedWidthWith_congr type (context ++ "." ++ name) same.1
    simp only [packedFieldsWidthWith, first]
    congr 1
    funext width
    exact packedFieldsWidthWith_congr rest _ context same.2

end

namespace Registry

variable {types : Registry} {name : String} {d : Declaration}

theorem packedReference_unrolls (types : Registry) : types.Unrolls types.packedReference
    fun onReference _ d => packedWidthWith onReference d.type where
  step _ _ _ := rfl
  congr _ d _ _ same := funext fun context => packedWidthWith_congr d.type context same

/-- The width of a reference is that of the declaration. -/
theorem Sound.packedWidth_ref (sound : types.Sound) (found : types.find? name = some d)
    (context : String) : types.packedWidth (.ref name) context = types.packedWidth d.type context :=
  congrFun (types.packedReference_unrolls.walk_size sound found) context

end Registry

namespace Names

variable {names : Names} {name : String} {d : Declaration}

/-! ## Representations -/

theorem ctypeWith_congr (names : Names) {onReference onReference' : OnReference Ctype}
    (type : NativeType) (context : String)
    (same : ∀ held ∈ type.valueRefs, onReference held = onReference' held) :
    names.ctypeWith onReference type context = names.ctypeWith onReference' type context := by
  fun_induction ctypeWith names onReference type context with
  | case1 element length context ih => rw [ctypeWith, ih same]
  | case6 | case7 => simp [ctypeWith, *]
  | case10 name context =>
    rw [ctypeWith, same name (by simp [NativeType.valueRefs])]
  | case4 => rw [ctypeWith]; assumption
  | _ => rw [ctypeWith]

theorem ctypeOfReference_unrolls (names : Names) : names.types.Unrolls names.ctypeOfReference
    fun onReference name d context =>
      names.ctypeWith onReference d.type s!"{context} ({name})" where
  step _ _ _ := rfl
  congr _ d _ _ same := funext fun _ => names.ctypeWith_congr d.type _ same

/-- The representation of a reference is that of the declaration. -/
theorem ctype_ref (sound : names.types.Sound) (found : names.types.find? name = some d)
    (context : String) :
    names.ctype (.ref name) context = names.ctype d.type s!"{context} ({name})" :=
  congrFun (names.ctypeOfReference_unrolls.walk_size sound found) context

/-! ## Type hints -/

theorem hintWith_congr {onReference onReference' : OnReference TypeHint}
    (type : NativeType) (context : String)
    (same : ∀ held ∈ type.valueRefs, onReference held = onReference' held) :
    hintWith onReference type context = hintWith onReference' type context := by
  fun_induction hintWith onReference type context with
  | case1 name context => rw [hintWith, same name (by simp [NativeType.valueRefs])]
  | case2 element length context ih => rw [hintWith, ih same]
  | case4 | case5 => simp [hintWith, *]
  | case9 => rw [hintWith] <;> assumption
  | _ => rw [hintWith]

/-- The type hint of a declaration that is mentioned. -/
def hintOfDeclaration (names : Names) (onReference : OnReference TypeHint) (name : String)
    (d : Declaration) (context : String) : Except Fault TypeHint :=
  if d.type.isNominal then .named <$> names.requireDomain d.name context
  else hintWith onReference d.type s!"{context} ({name})"

theorem hintOfReference_unrolls (names : Names) :
    names.types.Unrolls names.hintOfReference names.hintOfDeclaration where
  step depth name context := by
    rw [hintOfReference]
    refine congrArg _ (funext fun d => ?_)
    cases nominal : d.type.isNominal with
    | true => simp [hintOfDeclaration, nominal]
    | false => simp [hintOfDeclaration, nominal]
  congr name d _ _ same := by
    funext context
    rw [hintOfDeclaration, hintOfDeclaration, hintWith_congr d.type _ same]

/-- The type hint of a reference: the class of an enum or a struct, else that of the
declaration. -/
theorem hint_ref (sound : names.types.Sound) (found : names.types.find? name = some d)
    (context : String) : names.hint (.ref name) context =
      if d.type.isNominal then .named <$> names.requireDomain name context
      else names.hint d.type s!"{context} ({name})" := by
  have unrolled := congrFun (names.hintOfReference_unrolls.walk_size sound found) context
  rwa [hintOfDeclaration, (Registry.find?_eq_some_iff.mp found).2] at unrolled

/-! ## Defaults -/

theorem defaultWith_congr {onReference onReference' : OnReference DefaultValue}
    (type : NativeType) (context : String)
    (same : ∀ held ∈ type.valueRefs, onReference held = onReference' held) :
    defaultWith onReference type context = defaultWith onReference' type context := by
  fun_induction defaultWith onReference type context with
  | case1 name context => rw [defaultWith, same name (by simp [NativeType.valueRefs])]
  | case2 element length context ih => rw [defaultWith, ih same]
  | case8 => rw [defaultWith] <;> assumption
  | _ => rw [defaultWith]

/-- The default of a declaration that is mentioned. -/
def defaultOfDeclaration (names : Names) (onReference : OnReference DefaultValue) (name : String)
    (d : Declaration) (context : String) : Except Fault DefaultValue :=
  match d.type with
  | .struct .packed _ => .noFlags <$> names.requireDomain d.name context
  | .struct layout _ => .error (.structWithoutDefault layout context)
  | .enum _ _ => .ok .zero
  | other => defaultWith onReference other s!"{context} ({name})"

theorem defaultOfDeclaration_of_structural (names : Names) (onReference : OnReference DefaultValue)
    (name : String) (context : String) (structural : d.type.isNominal = false) :
    names.defaultOfDeclaration onReference name d context =
      defaultWith onReference d.type s!"{context} ({name})" := by
  unfold defaultOfDeclaration
  cases htype : d.type with
  | struct layout fields => simp [htype, NativeType.isNominal] at structural
  | enum tagBits variants => simp [htype, NativeType.isNominal] at structural
  | _ => rfl

theorem defaultOfReference_unrolls (names : Names) :
    names.types.Unrolls names.defaultOfReference names.defaultOfDeclaration where
  step depth name context := by
    rw [defaultOfReference]
    refine congrArg _ (funext fun d => ?_)
    unfold defaultOfDeclaration
    cases d.type with
    | struct layout fields => cases layout <;> simp [throw, throwThe, MonadExceptOf.throw]
    | _ => rfl
  congr name d onReference onReference' same := by
    funext context
    unfold defaultOfDeclaration
    split
    · rfl
    · rfl
    · rfl
    · rename_i same'
      rw [defaultWith_congr d.type _ same]

theorem defaultValue_ref (sound : names.types.Sound) (found : names.types.find? name = some d)
    (context : String) : names.defaultValue (.ref name) context =
      names.defaultOfDeclaration (names.defaultOfReference names.types.size) name d context :=
  congrFun (names.defaultOfReference_unrolls.walk_size sound found) context

end Names

/-! ## The end of a chain -/

namespace Registry

variable {types : Registry} {type : NativeType} {r : Resolved}

/-- Following references leads from a type to its end: a type that is no reference, and the last
declaration on the way if there is one. -/
inductive ResolvesTo (types : Registry) : NativeType → Resolved → Prop
  | here {type : NativeType} (h : ∀ name, type ≠ .ref name) : ResolvesTo types type ⟨type, none⟩
  | ref {name : String} {d : Declaration} {r : Resolved} (found : types.find? name = some d)
      (rest : ResolvesTo types d.type r) :
      ResolvesTo types (.ref name) ⟨r.type, some (r.declaration.getD name)⟩

namespace ResolvesTo

theorem unique (h : types.ResolvesTo type r) {r' : Resolved} (h' : types.ResolvesTo type r') :
    r = r' := by
  induction h generalizing r' with
  | here h =>
    cases h' with
    | here => rfl
    | ref found rest => exact absurd rfl (h _)
  | ref found rest ih =>
    cases h' with
    | here h => exact absurd rfl (h _)
    | ref found' rest' =>
      have same : some _ = some _ := found.symm.trans found'
      cases same
      rw [ih rest']

theorem not_ref (h : types.ResolvesTo type r) (name : String) : r.type ≠ .ref name := by
  induction h with
  | here h => exact h name
  | ref _ _ ih => exact ih

/-- The end is the type of the last declaration, or the type itself if there is none. -/
theorem declaration_type (h : types.ResolvesTo type r) : (r.declaration = none ∧ r.type = type) ∨
    ∃ name d, r.declaration = some name ∧ types.find? name = some d ∧ d.type = r.type := by
  induction h with
  | here h => exact .inl ⟨rfl, rfl⟩
  | @ref name d r found rest ih =>
    right
    rcases ih with ⟨last, same⟩ | ⟨last, d', isLast, found', same⟩
    · exact ⟨name, d, by rw [last]; rfl, found, same.symm⟩
    · exact ⟨last, d', by rw [isLast]; rfl, found', same⟩

/-- An enum or a struct is an end. -/
theorem of_nominal (h : types.ResolvesTo type r) (nominal : type.isNominal = true) :
    r = ⟨type, none⟩ := by
  cases h with
  | here => rfl
  | ref => cases nominal

theorem structural (h : types.ResolvesTo type r) (structural : r.type.isNominal = false) :
    type.isNominal = false := by
  cases nominal : type.isNominal with
  | false => rfl
  | true =>
    rw [h.of_nominal nominal] at structural
    exact nominal.symm.trans structural

/-- An enum or a struct at the end of another type is that of a declaration. -/
theorem declaration_isSome (h : types.ResolvesTo type r) (structural : type.isNominal = false)
    (nominal : r.type.isNominal = true) : ∃ name, r.declaration = some name := by
  rcases h.declaration_type with ⟨-, same⟩ | ⟨name, -, last, -⟩
  · rw [same, structural] at nominal
    cases nominal
  · exact ⟨name, last⟩

/-- An enum or a struct at the end of a well-formed type is that of a declaration. -/
theorem declared (h : types.ResolvesTo type r) (wellFormed : type.WellFormed types)
    (nominal : r.type.isNominal = true) :
    ∃ name d, r.declaration = some name ∧ types.find? name = some d ∧ d.type = r.type := by
  rcases h.declaration_type with ⟨-, same⟩ | declared
  · rw [same] at nominal
    cases type with
    | enum tagBits variants => exact wellFormed.elim
    | struct layout fields => exact wellFormed.elim
    | _ => cases nominal
  · exact declared

end ResolvesTo

/-- The walk along aliases finds the end; before it goes on, it notes what it has seen. -/
theorem resolvesTo_of_resolveFrom {types : Registry} : ∀ (depth : Nat) (seen : List String)
    (type : NativeType) (r : Resolved), types.resolveFrom depth seen type = .ok r →
    ∃ found, types.ResolvesTo type found ∧ r = ⟨found.type, found.declaration.or seen.head?⟩ := by
  intro depth
  induction depth with
  | zero =>
    intro seen type r h
    cases type with
    | ref name =>
      simp only [resolveFrom] at h
      split at h <;> cases h
    | _ =>
      rw [resolveFrom_end (by rintro _ ⟨⟩)] at h
      cases h
      exact ⟨_, .here (by rintro _ ⟨⟩), rfl⟩
  | succ depth ih =>
    intro seen type r h
    cases type with
    | ref name =>
      simp only [resolveFrom] at h
      split at h
      · cases h
      obtain ⟨d, found, h⟩ := bind_eq_ok.mp h
      obtain ⟨last, rest, rfl⟩ := ih (name :: seen) d.type r h
      refine ⟨_, .ref (get_eq_ok_iff.mp found) rest, ?_⟩
      cases last.declaration <;> rfl
    | _ =>
      rw [resolveFrom_end (by rintro _ ⟨⟩)] at h
      cases h
      exact ⟨_, .here (by rintro _ ⟨⟩), rfl⟩

theorem resolvesTo_of_resolve (h : types.resolve type = .ok r) : types.ResolvesTo type r := by
  obtain ⟨found, leads, rfl⟩ := resolvesTo_of_resolveFrom _ [] type r h
  simpa using leads

/-- Over a sound registry, the walk from a well-formed type finds what the type resolves to. -/
theorem Sound.resolve_eq_ok_iff (sound : types.Sound) (wellFormed : type.WellFormed types) :
    types.resolve type = .ok r ↔ types.ResolvesTo type r := by
  constructor
  · exact resolvesTo_of_resolve
  · intro leads
    obtain ⟨r', found⟩ := sound.resolve_isOk wellFormed
    rw [found, leads.unique (resolvesTo_of_resolve found)]

theorem Sound.exists_resolvesTo (sound : types.Sound) (wellFormed : type.WellFormed types) :
    ∃ r, types.ResolvesTo type r := by
  obtain ⟨r, found⟩ := sound.resolve_isOk wellFormed
  exact ⟨r, resolvesTo_of_resolve found⟩

/-- The walk along aliases finds the end that there is. -/
theorem Sound.resolve_of_resolvesTo (sound : types.Sound) (h : types.ResolvesTo type r) :
    types.resolve type = .ok r := by
  cases h with
  | here noRef => exact resolveFrom_end noRef
  | @ref name d r found rest =>
    have declared : (NativeType.ref name).WellFormed types := has_of_find? found
    exact (sound.resolve_eq_ok_iff declared).mpr (.ref found rest)

end Registry

/-! ## Lowering the end -/

namespace Names

open Registry

variable {names : Names} {type : NativeType} {r : Resolved}

/-- The representation of a type is that of its end, up to where messages say it stands. -/
theorem ctype_of_resolvesTo (sound : names.types.Sound) (h : names.types.ResolvesTo type r)
    (context : String) : ∃ context', names.ctype type context = names.ctype r.type context' := by
  induction h generalizing context with
  | here => exact ⟨context, rfl⟩
  | ref found _ ih =>
    rw [ctype_ref sound found]
    exact ih _

theorem hint_of_resolvesTo (sound : names.types.Sound) (h : names.types.ResolvesTo type r)
    (structural : r.type.isNominal = false) (context : String) :
    ∃ context', names.hint type context = names.hint r.type context' := by
  induction h generalizing context with
  | here => exact ⟨context, rfl⟩
  | @ref name d r found rest ih =>
    rw [hint_ref sound found, rest.structural structural]
    exact ih structural _

/-- The type hint of a type that ends at an enum or a struct is the class of the declaration. -/
theorem hint_of_resolvesTo_nominal (sound : names.types.Sound)
    (h : names.types.ResolvesTo type r) (nominal : r.type.isNominal = true) {declaration : String}
    (last : r.declaration = some declaration) (context : String) : ∃ context',
      names.hint type context = .named <$> names.requireDomain declaration context' := by
  induction h generalizing context with
  | here => cases last
  | @ref name d r found rest ih =>
    rw [hint_ref sound found]
    cases inner : d.type.isNominal with
    | true =>
      rw [rest.of_nominal inner] at last
      cases last
      exact ⟨context, rfl⟩
    | false =>
      obtain ⟨name', last'⟩ := rest.declaration_isSome inner nominal
      rw [last'] at last
      exact ih nominal (last'.trans last) _

theorem defaultValue_of_resolvesTo (sound : names.types.Sound)
    (h : names.types.ResolvesTo type r) (structural : r.type.isNominal = false)
    (context : String) :
    ∃ context', names.defaultValue type context = names.defaultValue r.type context' := by
  induction h generalizing context with
  | here => exact ⟨context, rfl⟩
  | @ref name d r found rest ih =>
    rw [defaultValue_ref sound found,
      defaultOfDeclaration_of_structural _ _ _ _ (rest.structural structural)]
    exact ih structural _

/-- The default of a type that ends at an enum or a struct is that of the declaration. -/
theorem defaultValue_of_resolvesTo_nominal (sound : names.types.Sound)
    (h : names.types.ResolvesTo type r) (nominal : r.type.isNominal = true) {declaration : String}
    {d : Declaration} (last : r.declaration = some declaration)
    (found : names.types.find? declaration = some d) (context : String) : ∃ context',
      names.defaultValue type context = names.defaultOfDeclaration
        (names.defaultOfReference names.types.size) declaration d context' := by
  induction h generalizing context with
  | here => cases last
  | @ref name d₁ r found₁ rest ih =>
    cases inner : d₁.type.isNominal with
    | true =>
      rw [rest.of_nominal inner] at last
      cases last
      have same : some d₁ = some d := found₁.symm.trans found
      cases same
      exact ⟨context, defaultValue_ref sound found context⟩
    | false =>
      obtain ⟨name', last'⟩ := rest.declaration_isSome inner nominal
      rw [last'] at last
      rw [defaultValue_ref sound found₁, defaultOfDeclaration_of_structural _ _ _ _ inner]
      exact ih nominal (last'.trans last) _

end Names
end NativeBindings
