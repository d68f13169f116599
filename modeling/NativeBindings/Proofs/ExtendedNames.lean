import NativeBindings.Proofs.Entries
import NativeBindings.Proofs.FollowedReferences

/-!
# Names that others extend

Names are within others (`Names.Within`) if the others declare whatever they declare, and know a
declaration by the same generated name. Whatever refers only to what the smaller names declare is
then lowered to the same over both, or fails with the same fault. Where the smaller names lack a
generated name that the others have, the one run fails and the other may go on, so two runs are
compared up to faults of a kind (`SameUnless`).

* `Registry.Unrolls.sameUnless`: a walk along references is the same over both, if it is at every
  declaration, given that it is at what the declaration holds by value.
* `Names.Within.ctype`, `hint`, `defaultValue`, `resolve_eq`: the walks over well-formed types.
* `Names.Within.definition?`, `record`, `binding`, `signature`: what entries and operations become.
  A field is read back through the class of its type if the domain table happens to have one, and
  is passed on otherwise, so `binding` asks that the domain table is the same where fields are read
  back (`Names.ReadsAlike`).
-/
namespace NativeBindings

variable {α β : Type} {kind : Fault → Prop}

/-! ## Runs that are the same -/

/-- Two runs are the same, unless the first one ends in a fault of a kind. -/
inductive SameUnless (kind : Fault → Prop) : Except Fault α → Except Fault α → Prop
  | same (x : Except Fault α) : SameUnless kind x x
  | failed {fault : Fault} (h : kind fault) (y : Except Fault α) : SameUnless kind (.error fault) y

namespace SameUnless

variable {x y : Except Fault α}

theorem of_eq (h : x = y) : SameUnless kind x y := h ▸ .same x

theorem eq_ok (h : SameUnless kind x y) {a : α} (ran : x = .ok a) : y = .ok a := by
  cases h with
  | same => exact ran
  | failed => cases ran

/-- Where no fault is of the kind, the runs are the same. -/
theorem eq (h : SameUnless (fun _ => False) x y) : x = y := by
  cases h with
  | same => rfl
  | failed never => exact never.elim

theorem bind {f g : α → Except Fault β} (h : SameUnless kind x y)
    (next : ∀ a, x = .ok a → SameUnless kind (f a) (g a)) :
    SameUnless kind (x >>= f) (y >>= g) := by
  cases h with
  | same =>
    cases x with
    | ok a => exact next a rfl
    | error fault => exact .same _
  | failed h => exact .failed h _

theorem map (f : α → β) (h : SameUnless kind x y) : SameUnless kind (f <$> x) (f <$> y) := by
  cases h with
  | same => exact .same _
  | failed h => exact .failed h _

theorem mapM {f g : α → Except Fault β} {xs : List α}
    (each : ∀ x ∈ xs, SameUnless kind (f x) (g x)) : SameUnless kind (xs.mapM f) (xs.mapM g) := by
  induction xs with
  | nil => exact .same _
  | cons x xs ih =>
    rw [List.mapM_cons, List.mapM_cons]
    refine (each x List.mem_cons_self).bind fun y _ => ?_
    exact (ih fun z hz => each z (List.mem_cons_of_mem x hz)).bind fun ys _ => .same _

end SameUnless

/-! ## Walks along references -/

namespace Registry

variable {types types' : Registry}

/-- What is declared is declared as the same among more. -/
def Within (types types' : Registry) : Prop :=
  ∀ name d, types.find? name = some d → types'.find? name = some d

/-- A walk is the same over both registries, up to faults of a kind, if what it makes of every
declaration is the same, given that it is the same at what the declaration holds by value. -/
theorem Unrolls.sameUnless {walk walk' : Nat → OnReference α}
    {unroll unroll' : OnReference α → String → Declaration → String → Except Fault α}
    (h : types.Unrolls walk unroll) (h' : types'.Unrolls walk' unroll') (sound : types.Sound)
    (sound' : types'.Sound) (within : types.Within types')
    (step : ∀ name d, types.find? name = some d →
      (∀ held ∈ d.type.valueRefs, ∀ context,
        SameUnless kind (walk types.size held context) (walk' types'.size held context)) →
      ∀ context, SameUnless kind (unroll (walk types.size) name d context)
        (unroll' (walk' types'.size) name d context))
    {name : String} (declared : types.has name = true) (context : String) :
    SameUnless kind (walk types.size name context) (walk' types'.size name context) := by
  refine sound.held_induction name declared (motive := fun name => ∀ context,
    SameUnless kind (walk types.size name context) (walk' types'.size name context)) ?_ context
  intro name d found inner context
  rw [h.walk_size sound found, h'.walk_size sound' (within name d found)]
  exact step name d found inner context

theorem Within.has {name : String} (within : types.Within types') (h : types.has name = true) :
    types'.has name = true := by
  obtain ⟨d, found⟩ := find?_of_has h
  exact has_of_find? (within name d found)

theorem Within.resolvesTo (within : types.Within types') {type : NativeType} {r : Resolved}
    (h : types.ResolvesTo type r) : types'.ResolvesTo type r := by
  induction h with
  | here noRef => exact .here noRef
  | ref found _ ih => exact .ref (within _ _ found) ih

end Registry

namespace Names

theorem hintWith_sameUnless {onReference onReference' : OnReference TypeHint} (type : NativeType)
    (context : String) (inner : ∀ held ∈ type.valueRefs, ∀ context,
      SameUnless kind (onReference held context) (onReference' held context)) :
    SameUnless kind (hintWith onReference type context)
      (hintWith onReference' type context) := by
  fun_induction hintWith onReference type context with
  | case1 name context =>
    rw [hintWith]
    exact inner name (by simp [NativeType.valueRefs]) context
  | case2 element length context ih =>
    rw [hintWith]
    exact (ih inner).map (TypeHint.array · length)
  | case4 | case5 => simp only [hintWith, *]; exact .same _
  | case9 => rw [hintWith] <;> first | exact .same _ | assumption
  | _ => rw [hintWith]; exact .same _

theorem defaultWith_sameUnless {onReference onReference' : OnReference DefaultValue}
    (type : NativeType) (context : String) (inner : ∀ held ∈ type.valueRefs, ∀ context,
      SameUnless kind (onReference held context) (onReference' held context)) :
    SameUnless kind (defaultWith onReference type context)
      (defaultWith onReference' type context) := by
  fun_induction defaultWith onReference type context with
  | case1 name context =>
    rw [defaultWith]
    exact inner name (by simp [NativeType.valueRefs]) context
  | case2 element length context ih =>
    rw [defaultWith]
    exact (ih inner).map (DefaultValue.repeated · length)
  | case8 => rw [defaultWith] <;> first | exact .same _ | assumption
  | _ => rw [defaultWith]; exact .same _

end Names

/-! ## Names -/

/-- What names declare and what they name is declared and named the same by others. Where a
generated name is missing, the fault is of a kind, or the others lack the name too. -/
structure Names.Within (kind : Fault → Prop) (names names' : Names) : Prop where
  types : names.types.Sound
  types' : names'.types.Sound
  declared : names.types.Within names'.types
  require : ∀ type context,
    SameUnless kind (names.require type context) (names'.require type context)
  requireDomain : ∀ type context,
    SameUnless kind (names.requireDomain type context) (names'.requireDomain type context)

namespace Names.Within

variable {names names' : Names} {type : NativeType}

section Walks

variable (h : names.Within kind names')
include h

/-! ### Packed widths -/

theorem packedReference_eq {name : String} (declared : names.types.has name = true) :
    names.types.packedReference names.types.size name =
      names'.types.packedReference names'.types.size name := by
  funext context
  refine SameUnless.eq (names.types.packedReference_unrolls.sameUnless
    names'.types.packedReference_unrolls h.types h.types' h.declared ?_ declared context)
  intro name d found inner context
  exact .of_eq (packedWidthWith_congr d.type context fun held mention =>
    funext fun context => (inner held mention context).eq)

/-- Widths do not depend on generated names. -/
theorem packedFieldsWidth_eq {fields : Fields} (context : String)
    (declared : ∀ held ∈ fieldValueRefs fields, names.types.has held = true) :
    names.types.packedFieldsWidth fields context = names'.types.packedFieldsWidth fields context :=
  packedFieldsWidthWith_congr fields 0 context fun held mention =>
    h.packedReference_eq (declared held mention)

/-! ### Representations -/

theorem pointerCtype (pointee : NativeType) (context : String) :
    SameUnless kind (names.pointerCtype pointee context) (names'.pointerCtype pointee context) := by
  unfold Names.pointerCtype
  split
  · exact .same _
  · exact (h.require _ context).map Ctype.pointer
  · exact .same _

theorem ctypeWith {onReference onReference' : OnReference Ctype} (type : NativeType)
    (context : String) (declared : ∀ held ∈ type.valueRefs, names.types.has held = true)
    (inner : ∀ held ∈ type.valueRefs, ∀ context,
      SameUnless kind (onReference held context) (onReference' held context)) :
    SameUnless kind (names.ctypeWith onReference type context)
      (names'.ctypeWith onReference' type context) := by
  fun_induction Names.ctypeWith names onReference type context with
  | case1 element length context ih =>
    rw [Names.ctypeWith]
    exact (ih declared inner).map (Ctype.array · length)
  | case3 fields context =>
    rw [Names.ctypeWith, h.packedFieldsWidth_eq context declared]
    exact .same _
  | case8 pointee nullable context =>
    rw [Names.ctypeWith]
    exact h.pointerCtype pointee context
  | case10 name context =>
    rw [Names.ctypeWith]
    exact inner name (by simp [NativeType.valueRefs]) context
  | case4 layout fields context packed =>
    rw [Names.ctypeWith.eq_4 _ _ _ _ _ packed]
    exact .same _
  | case6 | case7 => simp only [Names.ctypeWith, *]; exact .same _
  | _ => rw [Names.ctypeWith]; exact .same _

theorem ctypeOfReference {name : String} (declared : names.types.has name = true)
    (context : String) : SameUnless kind (names.ctypeOfReference names.types.size name context)
      (names'.ctypeOfReference names'.types.size name context) := by
  refine names.ctypeOfReference_unrolls.sameUnless names'.ctypeOfReference_unrolls h.types h.types'
    h.declared ?_ declared context
  intro name d found inner context
  exact h.ctypeWith d.type _ (fun held mention => h.types.held_declared ⟨d, found, mention⟩) inner

/-- A well-formed type has the same representation. -/
theorem ctype (wellFormed : type.WellFormed names.types) (context : String) :
    SameUnless kind (names.ctype type context) (names'.ctype type context) := by
  have declared : ∀ held ∈ type.valueRefs, names.types.has held = true := fun held mention =>
    wellFormed.has_of_embeds (NativeType.mem_valueRefs_iff.mp mention)
  exact h.ctypeWith type context declared fun held mention =>
    h.ctypeOfReference (declared held mention)

/-! ### Type hints -/

theorem hintOfReference {name : String} (declared : names.types.has name = true)
    (context : String) : SameUnless kind (names.hintOfReference names.types.size name context)
      (names'.hintOfReference names'.types.size name context) := by
  refine names.hintOfReference_unrolls.sameUnless names'.hintOfReference_unrolls h.types h.types'
    h.declared ?_ declared context
  intro name d found inner context
  unfold hintOfDeclaration
  cases d.type.isNominal with
  | true => exact (h.requireDomain d.name context).map TypeHint.named
  | false => exact hintWith_sameUnless d.type _ inner

/-- A well-formed type has the same type hint. -/
theorem hint (wellFormed : type.WellFormed names.types) (context : String) :
    SameUnless kind (names.hint type context) (names'.hint type context) :=
  hintWith_sameUnless type context fun _ mention =>
    h.hintOfReference (wellFormed.has_of_embeds (NativeType.mem_valueRefs_iff.mp mention))

/-! ### Defaults -/

theorem defaultOfReference {name : String} (declared : names.types.has name = true)
    (context : String) : SameUnless kind (names.defaultOfReference names.types.size name context)
      (names'.defaultOfReference names'.types.size name context) := by
  refine names.defaultOfReference_unrolls.sameUnless names'.defaultOfReference_unrolls h.types
    h.types' h.declared ?_ declared context
  intro name d found inner context
  unfold defaultOfDeclaration
  split
  · exact (h.requireDomain d.name context).map DefaultValue.noFlags
  · exact .same _
  · exact .same _
  · exact defaultWith_sameUnless d.type _ inner

/-- A well-formed type has the same default. -/
theorem defaultValue (wellFormed : type.WellFormed names.types) (context : String) :
    SameUnless kind (names.defaultValue type context) (names'.defaultValue type context) :=
  defaultWith_sameUnless type context fun _ mention =>
    h.defaultOfReference (wellFormed.has_of_embeds (NativeType.mem_valueRefs_iff.mp mention))

/-! ### Ends -/

/-- A well-formed type resolves to the same end. -/
theorem resolve_eq (wellFormed : type.WellFormed names.types) :
    names.types.resolve type = names'.types.resolve type := by
  obtain ⟨r, resolved⟩ := h.types.resolve_isOk wellFormed
  have leads := Registry.resolvesTo_of_resolve resolved
  rw [resolved, h.types'.resolve_of_resolvesTo (h.declared.resolvesTo leads)]

theorem wrapper (wellFormed : type.WellFormed names.types) (context : String) :
    SameUnless kind (names.wrapper type context) (names'.wrapper type context) := by
  unfold Names.wrapper
  rw [h.resolve_eq wellFormed]
  refine (SameUnless.same _).bind fun resolved _ => ?_
  cases wide : resolved.type.isWide with
  | true => exact .same _
  | false =>
    simp only [Bool.false_eq_true, ↓reduceIte]
    split
    · rename_i declaration _
      exact (h.require declaration context).bind fun name _ => .same _
    · exact .same _

end Walks

end Names.Within

/-! ## Fields -/

/-- The domain table is the same where a field is read back, at the enum or struct that the type of
the field ends at. -/
def Names.ReadsAlike (names names' : Names) (f : Field NativeType) : Prop :=
  ∀ r declaration, names.types.ResolvesTo f.type r → r.type.isNominal = true →
    r.declaration = some declaration →
    names'.lookupDomain declaration = names.lookupDomain declaration

namespace Names.Within

variable {names names' : Names} {f : Field NativeType}

section Fields

variable (h : names.Within kind names') (wellFormed : f.type.WellFormed names.types)
include h wellFormed

theorem recordField (owner : String) :
    SameUnless kind (Record.field names owner f) (Record.field names' owner f) := by
  refine (h.hint wellFormed _).bind fun hint _ => ?_
  exact (h.defaultValue wellFormed _).bind fun default _ => .same _

theorem layoutField (owner : String) : SameUnless kind (StructBinding.layoutField names owner f)
    (StructBinding.layoutField names' owner f) :=
  (h.ctype wellFormed _).bind fun _ _ => .same _

/-- Whether and how a field is checked and stored depends on nothing but the end of its type. -/
theorem checkAndStore_eq (owner : String) :
    StructBinding.checkAndStore names owner f = StructBinding.checkAndStore names' owner f := by
  have ends : names.types.underlying f.type = names'.types.underlying f.type := by
    rw [Registry.underlying, Registry.underlying, h.resolve_eq wellFormed]
  simp only [StructBinding.checkAndStore, StructBinding.check?, StructBinding.store, Names.isWide,
    ends]

theorem restore_eq (reads : names.ReadsAlike names' f) :
    StructBinding.restore names f = StructBinding.restore names' f := by
  obtain ⟨r, resolved⟩ := h.types.resolve_isOk wellFormed
  have leads := Registry.resolvesTo_of_resolve resolved
  have resolved' := (h.resolve_eq wellFormed).symm.trans resolved
  have same : (if r.type.isNominal then r.declaration.bind names.lookupDomain else none) =
      if r.type.isNominal then r.declaration.bind names'.lookupDomain else none := by
    cases nominal : r.type.isNominal with
    | false => rfl
    | true =>
      cases last : r.declaration with
      | none => rfl
      | some declaration => exact (reads r declaration leads nominal last).symm
  unfold StructBinding.restore
  rw [resolved, resolved']
  simp only [bind, Except.bind, same]

end Fields

/-! ## Entries and operations -/

section Entries

variable {e : NamedDeclaration} (h : names.Within kind names')
  (found : names.types.find? e.mapping.type = some e.declaration)
include h found

theorem definition? : SameUnless kind (e.definition? names) (e.definition? names') := by
  cases nominal : e.declaration.type.isNominal with
  | false =>
    rw [NamedDeclaration.definition?_of_structural names nominal,
      NamedDeclaration.definition?_of_structural names' nominal]
    exact (h.ctype (h.types.alias_wellFormed found nominal) _).map _
  | true =>
    -- The classes of enums and packed structs need no names.
    have unnamed : e.definition? names = e.definition? names' := by
      unfold NamedDeclaration.definition?
      cases htype : e.declaration.type with
      | enum => rfl
      | struct layout fields => cases layout <;> rfl
      | _ => simp [htype, NativeType.isNominal] at nominal
    exact .of_eq unnamed

theorem record : SameUnless kind (e.record names) (e.record names') := by
  unfold NamedDeclaration.record Record.build
  split
  · rename_i fields htype
    refine SameUnless.bind (.mapM fun f hf => ?_) fun _ _ => .same _
    have wellFormed := h.types.field_wellFormed found htype f (Fields.mem_of_mem_exposed hf)
    exact h.recordField wellFormed e.declaration.name
  · exact .same _

theorem binding (reads : ∀ fields, e.declaration.type = .struct .cAbi fields →
      e.table = .domain → ∀ f ∈ Fields.exposed fields, names.ReadsAlike names' f) :
    SameUnless kind (e.binding names) (e.binding names') := by
  cases struct : e.isStruct with
  | false =>
    have unbound : e.binding names = e.binding names' := by
      unfold NamedDeclaration.binding StructBinding.build
      split
      · rename_i fields htype
        simp [NamedDeclaration.isStruct, htype] at struct
      · rfl
    exact .of_eq unbound
  | true =>
    obtain ⟨fields, htype⟩ := NamedDeclaration.isStruct_iff.mp struct
    have wellFormed := h.types.field_wellFormed found htype
    have exposed : ∀ f ∈ Fields.exposed fields, f.type.WellFormed names.types := fun f hf =>
      wellFormed f (Fields.mem_of_mem_exposed hf)
    unfold NamedDeclaration.binding
    rw [StructBinding.build_of_struct _ _ htype, StructBinding.build_of_struct _ _ htype]
    have inward : SameUnless kind
        ((Fields.exposed fields).mapM (StructBinding.checkAndStore names e.declaration.name))
        ((Fields.exposed fields).mapM (StructBinding.checkAndStore names' e.declaration.name)) :=
      .mapM fun f hf => .of_eq (h.checkAndStore_eq (exposed f hf) e.declaration.name)
    refine inward.bind fun inward _ => SameUnless.bind ?_ fun restored _ => ?_
    · cases table : e.table with
      | protocol => exact .same _
      | domain =>
        refine SameUnless.map some (.mapM fun f hf => ?_)
        exact .of_eq (h.restore_eq (exposed f hf) (reads fields htype table f hf))
    · exact SameUnless.bind (.mapM fun f hf => h.layoutField (wellFormed f hf) _) fun _ _ => .same _

end Entries

theorem signature (h : names.Within kind names') {o : Operation}
    (event : o.event.WellFormed names.types) (result : o.result.WellFormed names.types)
    (operations : OperationEnum) : SameUnless kind (MethodSignature.build names operations o)
      (MethodSignature.build names' operations o) := by
  unfold MethodSignature.build
  split
  · exact .same _
  refine (h.hint event _).bind fun _ _ => ?_
  refine (h.hint result _).bind fun _ _ => ?_
  refine (h.wrapper event _).bind fun _ _ => ?_
  exact (h.wrapper result _).bind fun _ _ => .same _

end Names.Within
end NativeBindings
