import NativeBindings.Proofs.FollowedReferences

/-!
# Branches of the walks along references

A walk over types goes on from a reference with the declaration it names, which may be of any size.
What bounds it is the branch it is on, the names that it has followed to where it is.

`Registry.tracked` is a walk that knows its branch. Where a name would come again, or where the
branch is already as long as there are declarations, it does not follow the reference: it asks
`refuse` instead. `Registry.Leads` is the invariant of a branch: each name on it holds by value what
comes after it. Over a sound registry such a branch can always be followed (`Leads.follows`), so
tracking changes nothing, whatever `refuse` would say (`Unrolls.tracked_eq`), and every walk keeps
to its branches (`walks_keep_to_branches`).
-/
namespace NativeBindings

open Relation

variable {α : Type}

namespace Registry

variable {types : Registry}

/-! ## Tracked walks -/

/-- A walk that knows the branch it is on, the last name first. `unroll` says what it makes of a
declaration, given the branch up to the declaration and what it makes of references from there. -/
def tracked (types : Registry) (refuse : OnReference α)
    (unroll : List String → OnReference α → String → Declaration → String → Except Fault α)
    (branch : List String) : OnReference α := fun name context =>
  if name ∈ branch ∨ types.size ≤ branch.length then refuse name context
  else types.get name >>= fun d =>
    unroll (name :: branch) (types.tracked refuse unroll (name :: branch)) name d context
termination_by types.size - branch.length

/-- Every name on the branch leads by value to a name, and no name is on it twice. -/
structure Leads (types : Registry) (branch : List String) (name : String) : Prop where
  distinct : branch.Nodup
  behind : ∀ a ∈ branch, TransGen types.HoldsByValue a name

theorem leads_nil (types : Registry) (name : String) : types.Leads [] name where
  distinct := .nil
  behind _ h := nomatch h

namespace Leads

variable {branch : List String} {name : String}

theorem fresh (h : types.Leads branch name) (sound : types.Sound) : name ∉ branch :=
  fun again => sound.acyclic name (h.behind name again)

/-- A branch goes on by value. -/
theorem cons (h : types.Leads branch name) (sound : types.Sound) {held : String}
    (edge : types.HoldsByValue name held) : types.Leads (name :: branch) held where
  distinct := List.nodup_cons.mpr ⟨h.fresh sound, h.distinct⟩
  behind a ha := by
    rcases List.mem_cons.mp ha with rfl | ha
    · exact .single edge
    · exact .tail (h.behind a ha) edge

/-- The name a branch leads to is not on it, and leaves room for it. -/
theorem follows (h : types.Leads branch name) (sound : types.Sound)
    (declared : types.has name = true) : ¬ (name ∈ branch ∨ types.size ≤ branch.length) := by
  have all : (name :: branch).length ≤ types.size := by
    apply length_le_size (List.nodup_cons.mpr ⟨h.fresh sound, h.distinct⟩)
    intro a ha
    rcases List.mem_cons.mp ha with rfl | ha
    · exact declared
    · obtain ⟨b, edge, -⟩ := TransGen.head'_iff.mp (h.behind a ha)
      exact has_of_holdsByValue edge
  rw [List.length_cons] at all
  rintro (again | full)
  · exact h.fresh sound again
  · omega

end Leads

variable {walk : Nat → OnReference α}
  {unroll : OnReference α → String → Declaration → String → Except Fault α}
  {unrollOn : List String → OnReference α → String → Declaration → String → Except Fault α}

/-- Along a branch by value, a tracked walk is the walk: it never asks what to do instead. The
induction is on what a declaration holds by value, with the branch growing by the declaration. -/
theorem Unrolls.tracked_eq (h : types.Unrolls walk unroll) (sound : types.Sound)
    (refuse : OnReference α)
    (same : ∀ branch name d, types.find? name = some d → types.Leads branch name →
      ∀ onReference, unrollOn (name :: branch) onReference name d = unroll onReference name d)
    (name : String) (declared : types.has name = true) :
    ∀ branch, types.Leads branch name →
      types.tracked refuse unrollOn branch name = walk types.size name := by
  refine sound.held_induction name declared ?_
  intro name d found inner branch leads
  funext context
  rw [tracked, if_neg (leads.follows sound (has_of_find? found)), get_eq_ok_iff.mpr found]
  show unrollOn (name :: branch) _ name d context = _
  rw [same branch name d found leads, h.walk_size sound found]
  refine congrFun (h.congr name d _ _ ?_) context
  intro held mention
  exact inner held mention (name :: branch) (leads.cons sound ⟨d, found, mention⟩)

/-! ## Packed widths -/

/-- The width of what a reference names, on a branch. -/
def trackedWidth (types : Registry) (refuse : OnReference Int) (branch : List String) :
    OnReference Int :=
  types.tracked refuse (fun _ onReference _ d => packedWidthWith onReference d.type) branch

theorem Sound.trackedWidth_eq (sound : types.Sound) (refuse : OnReference Int)
    {branch : List String} {name : String} (declared : types.has name = true)
    (leads : types.Leads branch name) :
    types.trackedWidth refuse branch name = types.packedReference types.size name :=
  types.packedReference_unrolls.tracked_eq sound refuse (fun _ _ _ _ _ _ => rfl) name declared
    branch leads

/-- The widths of the fields of a declared struct, on the branch that ends at the struct. -/
theorem Sound.packedFieldsWidth_eq_tracked (sound : types.Sound) (refuse : OnReference Int)
    {branch : List String} {name : String} {d : Declaration} {layout : Layout} {fields : Fields}
    (found : types.find? name = some d) (struct : d.type = .struct layout fields)
    (leads : types.Leads branch name) (context : String) :
    types.packedFieldsWidth fields context =
      packedFieldsWidthWith (types.trackedWidth refuse (name :: branch)) 0 fields context := by
  refine packedFieldsWidthWith_congr fields 0 context ?_
  intro held mention
  have edge : types.HoldsByValue name held := ⟨d, found, by rw [struct]; exact mention⟩
  exact (sound.trackedWidth_eq refuse (sound.held_declared edge) (leads.cons sound edge)).symm

end Registry

/-! ## Representations, type hints and defaults -/

namespace Names

open Registry

variable {names : Names}

/-- The representation of a declared type, on the branch that ends at the declaration: the widths of
the fields of a packed struct are on the same branch. -/
def ctypeOn (names : Names) (refuseWidth : OnReference Int) (branch : List String)
    (onReference : OnReference Ctype) (type : NativeType) (context : String) : Except Fault Ctype :=
  match type with
  | .struct .packed fields => do
    let width ← packedFieldsWidthWith (names.types.trackedWidth refuseWidth branch) 0 fields context
    Ctype.ofBits width context
  | other => names.ctypeWith onReference other context

/-- The representation of what a reference names, on a branch. -/
def trackedCtype (names : Names) (refuseWidth : OnReference Int) (refuse : OnReference Ctype)
    (branch : List String) : OnReference Ctype :=
  names.types.tracked refuse (fun branch onReference name d context =>
    names.ctypeOn refuseWidth branch onReference d.type s!"{context} ({name})") branch

/-- The type hint of what a reference names, on a branch. -/
def trackedHint (names : Names) (refuse : OnReference TypeHint) (branch : List String) :
    OnReference TypeHint :=
  names.types.tracked refuse (fun _ => names.hintOfDeclaration) branch

/-- The default of what a reference names, on a branch. -/
def trackedDefault (names : Names) (refuse : OnReference DefaultValue) (branch : List String) :
    OnReference DefaultValue :=
  names.types.tracked refuse (fun _ => names.defaultOfDeclaration) branch

theorem ctypeOn_eq (sound : names.types.Sound) (refuseWidth : OnReference Int)
    {branch : List String} {name : String} {d : Declaration}
    (found : names.types.find? name = some d) (leads : names.types.Leads branch name)
    (onReference : OnReference Ctype) (context : String) :
    names.ctypeOn refuseWidth (name :: branch) onReference d.type context =
      names.ctypeWith onReference d.type context := by
  unfold ctypeOn
  split
  · rename_i fields struct
    rw [struct, ctypeWith, sound.packedFieldsWidth_eq_tracked refuseWidth found struct leads]
  · rfl

/-- Only a declaration is a packed struct. -/
theorem ctypeOn_of_wellFormed {type : NativeType} (h : type.WellFormed names.types)
    (refuseWidth : OnReference Int) (branch : List String) (onReference : OnReference Ctype)
    (context : String) : names.ctypeOn refuseWidth branch onReference type context =
      names.ctypeWith onReference type context := by
  cases type with
  | struct layout fields => exact h.elim
  | _ => rfl

theorem trackedCtype_eq (sound : names.types.Sound) (refuseWidth : OnReference Int)
    (refuse : OnReference Ctype) {name : String} (declared : names.types.has name = true) :
    names.trackedCtype refuseWidth refuse [] name =
      names.ctypeOfReference names.types.size name := by
  refine names.ctypeOfReference_unrolls.tracked_eq sound refuse ?_ name declared [] (leads_nil _ _)
  intro branch name d found leads onReference
  funext context
  exact ctypeOn_eq sound refuseWidth found leads onReference _

theorem trackedHint_eq (sound : names.types.Sound) (refuse : OnReference TypeHint) {name : String}
    (declared : names.types.has name = true) :
    names.trackedHint refuse [] name = names.hintOfReference names.types.size name :=
  names.hintOfReference_unrolls.tracked_eq sound refuse (fun _ _ _ _ _ _ => rfl) name declared []
    (leads_nil _ _)

theorem trackedDefault_eq (sound : names.types.Sound) (refuse : OnReference DefaultValue)
    {name : String} (declared : names.types.has name = true) :
    names.trackedDefault refuse [] name = names.defaultOfReference names.types.size name :=
  names.defaultOfReference_unrolls.tracked_eq sound refuse (fun _ _ _ _ _ _ => rfl) name declared []
    (leads_nil _ _)

end Names

/-! ## Every walk -/

/-- A walk that is not cut short: its references end, and no alias among them is one of itself. -/
abbrev Ends (x : Except Fault α) : Prop :=
  OnlyFaults (fun fault => fault ≠ .endlessReferences ∧ ∀ name, fault ≠ .aliasOfItself name) x

theorem Ends.of_foreseeable {x : Except Fault α} (h : Foreseeable x) : Ends x := by
  intro fault failed
  rcases h fault failed with lowering | mapping | ⟨type, member, rfl⟩
  · constructor
    · rintro rfl
      cases lowering
    · rintro name rfl
      cases lowering
  · constructor
    · rintro rfl
      cases mapping
    · rintro name rfl
      cases mapping
  · exact ⟨nofun, nofun⟩

namespace Registry.Sound

variable {types : Registry} {type : NativeType}

theorem packedWidth_foreseeable (sound : types.Sound) (h : type.WellFormed types)
    (context : String) : Foreseeable (types.packedWidth type context) := by
  refine (packedWidthWith_onlyLowering type context fun name mention => ?_).foreseeable
  obtain ⟨declared, low⟩ := sound.bounded_of_wellFormed h name mention
  exact sound.packedReference_onlyLowering types.size name declared low

/-- As many references as there are declarations are enough to find the end of a chain. -/
theorem resolveFrom_isOk_of_size_le (sound : types.Sound) (h : type.WellFormed types) :
    ∃ resolved, ∀ depth, types.size ≤ depth →
      types.resolveFrom depth [] type = .ok resolved := by
  obtain ⟨resolved, ends⟩ := sound.resolve_isOk h
  refine ⟨resolved, fun depth enough => ?_⟩
  obtain ⟨other, found⟩ := sound.resolveFrom_isOk depth [] type
    ((sound.bounded_of_wellFormed h).mono enough) (fun _ h => nomatch h)
  obtain ⟨last, leads, rfl⟩ := resolvesTo_of_resolveFrom depth [] type other found
  rw [found, (resolvesTo_of_resolve ends).unique leads]
  simp

end Registry.Sound

namespace Names

open Registry

variable {names : Names}

/-- From a type that passes its check, over a registry that was built, every walk is the tracked
walk, whatever that would do instead of following a name twice on one branch or more references than
there are declarations. So no branch does, no walk is cut short, and following aliases ends within
as many references, never at an alias of itself. -/
theorem walks_keep_to_branches {declarations : List Declaration}
    (built : Registry.build declarations = .ok names.types) {type : NativeType} {place : String}
    (valid : Check.type names.types type place = .ok ()) :
    (∀ refuseWidth refuse context, names.ctype type context =
      names.ctypeOn refuseWidth [] (names.trackedCtype refuseWidth refuse []) type context) ∧
    (∀ refuse context, names.hint type context =
      hintWith (names.trackedHint refuse []) type context) ∧
    (∀ refuse context, names.defaultValue type context =
      defaultWith (names.trackedDefault refuse []) type context) ∧
    (∀ refuse context, names.types.packedWidth type context =
      packedWidthWith (names.types.trackedWidth refuse []) type context) ∧
    (∀ name d layout fields, names.types.find? name = some d → d.type = .struct layout fields →
      ∀ context, Ends (names.types.packedFieldsWidth fields context) ∧
        ∀ refuse, names.types.packedFieldsWidth fields context =
          packedFieldsWidthWith (names.types.trackedWidth refuse [name]) 0 fields context) ∧
    (∀ context, Ends (names.ctype type context) ∧ Ends (names.hint type context) ∧
      Ends (names.defaultValue type context) ∧ Ends (names.types.packedWidth type context)) ∧
    ∃ resolved, ∀ depth, names.types.size ≤ depth →
      names.types.resolveFrom depth [] type = .ok resolved := by
  have sound := sound_of_build built
  have wellFormed := Check.type_eq_ok_iff.mp valid
  have declared : ∀ held ∈ type.valueRefs, names.types.has held = true :=
    fun held mention => wellFormed.has_of_embeds (NativeType.mem_valueRefs_iff.mp mention)
  refine ⟨?_, ?_, ?_, ?_, ?_, ?_, sound.resolveFrom_isOk_of_size_le wellFormed⟩
  · intro refuseWidth refuse context
    rw [ctypeOn_of_wellFormed wellFormed]
    exact names.ctypeWith_congr type context fun held mention =>
      (trackedCtype_eq sound refuseWidth refuse (declared held mention)).symm
  · intro refuse context
    exact hintWith_congr type context fun held mention =>
      (trackedHint_eq sound refuse (declared held mention)).symm
  · intro refuse context
    exact defaultWith_congr type context fun held mention =>
      (trackedDefault_eq sound refuse (declared held mention)).symm
  · intro refuse context
    exact packedWidthWith_congr type context fun held mention =>
      (sound.trackedWidth_eq refuse (declared held mention) (leads_nil _ _)).symm
  · intro name d layout fields found struct context
    refine ⟨.of_foreseeable
      (sound.packedFieldsWidth_onlyLowering_of_find? found struct context).foreseeable, ?_⟩
    intro refuse
    exact sound.packedFieldsWidth_eq_tracked refuse found struct (leads_nil _ _) context
  · intro context
    exact ⟨.of_foreseeable (names.ctype_foreseeable sound wellFormed context),
      .of_foreseeable (names.hint_foreseeable sound wellFormed context),
      .of_foreseeable (names.defaultValue_foreseeable sound wellFormed context),
      .of_foreseeable (sound.packedWidth_foreseeable wellFormed context)⟩

/-- Structs that point to each other and to themselves, and a chain of aliases to a packed struct
that holds an enum. -/
def linked : List Declaration :=
  [⟨"list_t", .struct .cAbi [⟨"head", .pointer (.ref "node_t") true, false⟩,
      ⟨"flags", .ref "flags_alias_t", false⟩]⟩,
    ⟨"node_t", .struct .cAbi [⟨"next", .pointer (.ref "node_t") true, false⟩,
      ⟨"list", .pointer (.ref "list_t") false, false⟩]⟩,
    ⟨"flags_alias_t", .array (.ref "flags_t") 2⟩,
    ⟨"flags_t", .struct .packed [⟨"mode", .ref "mode_t", false⟩, ⟨"rest", .int 6 false, true⟩]⟩,
    ⟨"mode_t", .enum 2 [⟨"off", 0⟩, ⟨"on", 1⟩]⟩]

/-- The declarations without generated names. -/
def linkedNames : Names := ⟨⟨linked, by decide⟩, .empty .protocol, .empty .domain⟩

theorem walks_keep_to_branches_linked :
    Registry.build linked = .ok linkedNames.types ∧
      Check.type linkedNames.types (.array (.ref "flags_alias_t") 3) "place" = .ok () ∧
      (∀ refuseWidth refuse, linkedNames.ctypeOn refuseWidth []
        (linkedNames.trackedCtype refuseWidth refuse []) (.array (.ref "flags_alias_t") 3) "place" =
          .ok (.array (.array (.unsigned .w8) 2) 3)) ∧
      ∀ refuse, packedFieldsWidthWith (linkedNames.types.trackedWidth refuse ["flags_t"]) 0
        [⟨"mode", .ref "mode_t", false⟩, ⟨"rest", .int 6 false, true⟩] "flags_t" = .ok 8 := by
  have built : Registry.build linked = .ok linkedNames.types := rfl
  have valid : Check.type linkedNames.types (.array (.ref "flags_alias_t") 3) "place" = .ok () :=
    rfl
  obtain ⟨ctypes, -, -, -, widths, -⟩ := walks_keep_to_branches built valid
  refine ⟨built, valid, ?_, ?_⟩
  · intro refuseWidth refuse
    rw [← ctypes refuseWidth refuse "place"]
    rfl
  · intro refuse
    rw [← (widths "flags_t" _ _ _ rfl rfl "flags_t").2 refuse]
    rfl

end Names
end NativeBindings
