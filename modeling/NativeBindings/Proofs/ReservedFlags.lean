import NativeBindings.Proofs.LoweringFaults

/-!
# Reserved flags and representations

Whether a field is reserved decides who sees it, not how it is stored: representations and packed
widths never look at the flag. They are the same over the declarations with every flag taken away
(`Names.ctype_unflagged`), and so over any two registries that differ in flags alone.
-/
namespace NativeBindings

/-! ## Types without flags -/

/-- The fields, none of them reserved. -/
def Fields.unflagged (fields : Fields) : Fields := fields.map ({ · with reserved := false })

theorem Fields.exists_mem_of_unflagged_eq {fields fields' : Fields}
    (same : Fields.unflagged fields' = Fields.unflagged fields) {f : Field NativeType}
    (hf : f ∈ fields') : ∃ f' ∈ fields, f'.name = f.name ∧ f'.type = f.type := by
  have mem : { f with reserved := false } ∈ Fields.unflagged fields' := List.mem_map_of_mem hf
  rw [same] at mem
  obtain ⟨f', hf', sameField⟩ := List.mem_map.mp mem
  obtain ⟨sameName, sameType, -⟩ := Field.mk.inj sameField
  exact ⟨f', hf', sameName, sameType⟩

/-- The type of a declaration, with no field reserved. -/
def NativeType.unflagged : NativeType → NativeType
  | .struct layout fields => .struct layout (Fields.unflagged fields)
  | type => type

/-- What has the type of a struct without flags is a struct of the same fields, up to flags. -/
theorem NativeType.exists_of_unflagged_eq {type : NativeType} {layout : Layout} {fields : Fields}
    (same : type.unflagged = .struct layout (Fields.unflagged fields)) : ∃ fields',
      type = .struct layout fields' ∧ Fields.unflagged fields' = Fields.unflagged fields := by
  cases type with
  | struct layout' fields' =>
    obtain ⟨rfl, sameFields⟩ := NativeType.struct.inj same
    exact ⟨fields', rfl, sameFields⟩
  | _ => cases same

def Declaration.unflagged (d : Declaration) : Declaration := { d with type := d.type.unflagged }

def Registry.unflagged (types : Registry) : Registry where
  declarations := types.declarations.map (·.unflagged)
  distinct := by
    rw [List.map_map]
    exact types.distinct

def Names.unflagged (names : Names) : Names := { names with types := names.types.unflagged }

/-! ## Packed widths -/

theorem packedFieldsWidthWith_unflagged (onReference : OnReference Int) (fields : Fields)
    (before : Int) (context : String) :
    packedFieldsWidthWith onReference before (Fields.unflagged fields) context =
      packedFieldsWidthWith onReference before fields context := by
  induction fields generalizing before with
  | nil => rfl
  | cons f rest ih =>
    obtain ⟨name, type, reserved⟩ := f
    have inner (width : Int) := ih (Binary64.nearest (before + width))
    simp only [Fields.unflagged, List.map_cons, packedFieldsWidthWith] at inner ⊢
    simp only [inner]

theorem packedWidthWith_unflagged (onReference : OnReference Int) (type : NativeType)
    (context : String) : packedWidthWith onReference type.unflagged context =
      packedWidthWith onReference type context := by
  cases type with
  | struct layout fields =>
    cases layout with
    | packed =>
      simp only [NativeType.unflagged, packedWidthWith]
      exact packedFieldsWidthWith_unflagged onReference fields 0 context
    | cAbi | auto => simp only [NativeType.unflagged, packedWidthWith]
  | _ => rfl

namespace Registry

theorem size_unflagged (types : Registry) : types.unflagged.size = types.size :=
  List.length_map _

theorem get_unflagged (types : Registry) (name : String) :
    types.unflagged.get name = (·.unflagged) <$> types.get name := by
  have found : types.unflagged.find? name = (types.find? name).map (·.unflagged) := by
    rw [find?, unflagged, List.find?_map]
    rfl
  rw [get, get, found]
  cases types.find? name <;> rfl

theorem packedReference_unflagged (types : Registry) (depth : Nat) :
    types.unflagged.packedReference depth = types.packedReference depth := by
  induction depth with
  | zero =>
    funext name context
    rw [packedReference, packedReference, get_unflagged]
    cases types.get name <;> rfl
  | succ depth ih =>
    funext name context
    rw [packedReference, packedReference, get_unflagged, ih]
    cases types.get name with
    | error fault => rfl
    | ok d => exact packedWidthWith_unflagged (types.packedReference depth) d.type context

theorem packedFieldsWidth_unflagged (types : Registry) (fields : Fields) (context : String) :
    types.unflagged.packedFieldsWidth fields context = types.packedFieldsWidth fields context := by
  rw [packedFieldsWidth, packedFieldsWidth, size_unflagged, packedReference_unflagged]

end Registry

/-! ## Representations -/

namespace Names

theorem ctypeWith_unflagged_names (names : Names) (onReference : OnReference Ctype)
    (type : NativeType) (context : String) :
    names.unflagged.ctypeWith onReference type context =
      names.ctypeWith onReference type context := by
  fun_induction ctypeWith names onReference type context with
  | case1 element length context ih => rw [ctypeWith, ih]
  | case3 fields context =>
    rw [ctypeWith]
    exact congrArg (· >>= _) (names.types.packedFieldsWidth_unflagged fields context)
  | case4 => rw [ctypeWith]; assumption
  | case6 | case7 => simp [ctypeWith, *]
  | case8 => rw [ctypeWith]; rfl
  | _ => rw [ctypeWith]

theorem ctypeWith_unflagged_type (names : Names) (onReference : OnReference Ctype)
    (type : NativeType) (context : String) :
    names.ctypeWith onReference type.unflagged context =
      names.ctypeWith onReference type context := by
  cases type with
  | struct layout fields =>
    cases layout with
    | packed =>
      exact congrArg (· >>= fun width => Ctype.ofBits width context)
        (packedFieldsWidthWith_unflagged _ fields 0 context)
    | cAbi | auto => rfl
  | _ => rfl

theorem ctypeOfReference_unflagged (names : Names) (depth : Nat) :
    names.unflagged.ctypeOfReference depth = names.ctypeOfReference depth := by
  induction depth with
  | zero =>
    funext name context
    rw [ctypeOfReference, ctypeOfReference, unflagged, Registry.get_unflagged]
    cases names.types.get name <;> rfl
  | succ depth ih =>
    funext name context
    have get : names.unflagged.types.get name = (·.unflagged) <$> names.types.get name :=
      names.types.get_unflagged name
    rw [ctypeOfReference, ctypeOfReference, get, ih]
    cases names.types.get name with
    | error fault => rfl
    | ok d =>
      exact (names.ctypeWith_unflagged_names _ d.unflagged.type _).trans
        (names.ctypeWith_unflagged_type _ d.type _)

/-- Taking flags away changes no representation. -/
theorem ctype_unflagged (names : Names) (type : NativeType) (context : String) :
    names.unflagged.ctype type context = names.ctype type context := by
  have size : names.unflagged.types.size = names.types.size := names.types.size_unflagged
  rw [ctype, ctype, size, ctypeOfReference_unflagged, ctypeWith_unflagged_names]

/-- Where registries differ in flags alone, types have the same representations. -/
theorem ctype_eq_of_unflagged {names names' : Names} (same : names'.unflagged = names.unflagged)
    (type : NativeType) (context : String) :
    names'.ctype type context = names.ctype type context := by
  rw [← ctype_unflagged, same, ctype_unflagged]

end Names
end NativeBindings
