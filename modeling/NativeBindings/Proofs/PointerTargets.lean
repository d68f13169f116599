import NativeBindings.Proofs.LoweringFaults

/-!
# What pointers point to

A type that is, behind references and arrays, a pointer to a declaration points to that declaration
(`Registry.PointsTo`). Its representation mentions the structure class of the declaration's
generated name, whatever the declaration is: `Names.Represents` says that the two agree, and
`Names.represents_of_ctype` that the representation of a type always does.
-/
namespace NativeBindings

/-! ## Structure classes in a representation -/

/-- The mapped name whose structure class a representation mentions. -/
def Ctype.target? : Ctype → Option String
  | .pointer name => some name
  | .array element _ => element.target?
  | _ => Option.none

/-- A pointer to a structure class begins with the one letter that the name is derived with. -/
theorem Ctype.pointer_class_append (rest : String) :
    "ctypes.POINTER(" ++ ("C" ++ rest) = "ctypes.POINTER(C" ++ rest := by
  rw [← String.append_assoc]
  rfl

/-- A mentioned class stands at the beginning of the text, before the lengths of arrays. -/
theorem Ctype.text_of_target {type : Ctype} {name : String} (h : type.target? = some name) :
    ∃ lengths, type.text = s!"ctypes.POINTER({Naming.structureClass name})" ++ lengths := by
  induction type with
  | pointer name' =>
    obtain rfl : name' = name := by simpa [target?] using h
    exact ⟨"", by simp [text_pointer, toString]⟩
  | array element length ih =>
    obtain ⟨lengths, same⟩ := ih h
    exact ⟨lengths ++ (" * " ++ countText length), by simp [text_array, same, String.append_assoc]⟩
  | _ => simp [target?] at h

/-- A representation that mentions no class does not begin like one that does. -/
theorem Ctype.text_of_no_target {type : Ctype} (h : type.target? = Option.none) :
    ∃ start ∈ ["None", "ctypes.c_", "c_uint128"], ∃ rest, type.text = start ++ rest := by
  induction type with
  | none => exact ⟨"None", by decide, "", by decide⟩
  | bool => exact ⟨"ctypes.c_", by decide, "bool", by decide⟩
  | unsigned width =>
    rw [text_unsigned]
    split
    · exact ⟨"c_uint128", by decide, "", by decide⟩
    · refine ⟨"ctypes.c_", by decide, "uint" ++ countText width.bits, ?_⟩
      rw [← String.append_assoc]
      rfl
  | untypedPointer => exact ⟨"ctypes.c_", by decide, "void_p", by decide⟩
  | pointer name => cases h
  | array element length ih =>
    obtain ⟨start, hstart, rest, same⟩ := ih h
    exact ⟨start, hstart, rest ++ (" * " ++ countText length), by
      rw [text_array, same, String.append_assoc, String.append_assoc]⟩

/-! ## Declarations behind pointers -/

namespace Registry

/-- Behind references and arrays, a type is a pointer to the declaration of a name. -/
inductive PointsTo (types : Registry) : NativeType → String → Prop
  | pointer (name : String) (nullable : Bool) : PointsTo types (.pointer (.ref name) nullable) name
  | array {element : NativeType} {name : String} (length : Int)
      (inner : PointsTo types element name) : PointsTo types (.array element length) name
  | ref {name : String} {d : Declaration} {target : String} (found : types.find? name = some d)
      (inner : PointsTo types d.type target) : PointsTo types (.ref name) target

/-- The name is that of a struct of the platform's layout. -/
def IsStruct (types : Registry) (name : String) : Prop :=
  ∃ d fields, types.find? name = some d ∧ d.type = .struct .cAbi fields

variable {types : Registry} {target : String}

theorem pointsTo_array_iff {element : NativeType} {length : Int} :
    types.PointsTo (.array element length) target ↔ types.PointsTo element target :=
  ⟨fun | .array _ inner => inner, .array length⟩

theorem pointsTo_ref_iff {name : String} {d : Declaration} (h : types.find? name = some d) :
    types.PointsTo (.ref name) target ↔ types.PointsTo d.type target := by
  constructor
  · rintro (_ | _ | ⟨found, inner⟩)
    cases h.symm.trans found
    exact inner
  · exact .ref h

end Registry

/-! ## Agreement -/

namespace Names

variable {names : Names}

/-- The class that a representation mentions is that of the generated name of what the type points
to. -/
structure Represents (names : Names) (type : NativeType) (ctype : Ctype) : Prop where
  forth : ∀ target, names.types.PointsTo type target →
    ∃ name, names.lookup target = some name ∧ ctype.target? = some name
  back : ∀ name, ctype.target? = some name →
    ∃ target, names.types.PointsTo type target ∧ names.lookup target = some name

theorem Represents.of_no_target {type : NativeType} {ctype : Ctype}
    (points : ∀ target, ¬ names.types.PointsTo type target) (mentions : ctype.target? = none) :
    names.Represents type ctype :=
  ⟨fun target h => absurd h (points target), fun name h => by simp [mentions] at h⟩

theorem Represents.array {element : NativeType} {ctype : Ctype} (length : Int)
    (h : names.Represents element ctype) :
    names.Represents (.array element length) (.array ctype length) := by
  refine ⟨fun target points => ?_, fun name mention => ?_⟩
  · exact h.forth target (Registry.pointsTo_array_iff.mp points)
  · obtain ⟨target, points, mapped⟩ := h.back name mention
    exact ⟨target, .array length points, mapped⟩

theorem Represents.ref {name : String} {d : Declaration} {ctype : Ctype}
    (found : names.types.find? name = some d) (h : names.Represents d.type ctype) :
    names.Represents (.ref name) ctype := by
  refine ⟨fun target points => ?_, fun name mention => ?_⟩
  · exact h.forth target ((Registry.pointsTo_ref_iff found).mp points)
  · obtain ⟨target, points, mapped⟩ := h.back name mention
    exact ⟨target, .ref found points, mapped⟩

theorem target?_of_ofBits {bits : Int} {context : String} {ctype : Ctype}
    (h : Ctype.ofBits bits context = .ok ctype) : ctype.target? = none := by
  unfold Ctype.ofBits at h
  split at h
  · cases h; rfl
  · cases h

theorem represents_of_pointerCtype {pointee : NativeType} {nullable : Bool} {context : String}
    {ctype : Ctype} (h : names.pointerCtype pointee context = .ok ctype) :
    names.Represents (.pointer pointee nullable) ctype := by
  unfold pointerCtype at h
  split at h
  · cases h
    exact .of_no_target (by rintro _ ⟨⟩) rfl
  · rename_i type
    obtain ⟨name, required, rfl⟩ := map_eq_ok.mp h
    have mapped := require_eq_ok_iff.mp required
    refine ⟨fun target points => ?_, fun name' mention => ?_⟩
    · cases points
      exact ⟨name, mapped, rfl⟩
    · cases mention
      exact ⟨type, .pointer type nullable, mapped⟩
  · cases h

theorem represents_of_ctypeWith {onReference : OnReference Ctype} {type : NativeType}
    {context : String} {ctype : Ctype}
    (inner : ∀ name context ctype, onReference name context = .ok ctype →
      names.Represents (.ref name) ctype)
    (h : names.ctypeWith onReference type context = .ok ctype) : names.Represents type ctype := by
  fun_induction ctypeWith names onReference type context generalizing ctype with
  | case1 element length context ih =>
    obtain ⟨elementCtype, lowered, rfl⟩ := map_eq_ok.mp h
    exact (ih lowered).array length
  | case2 => exact .of_no_target (by rintro _ ⟨⟩) (target?_of_ofBits h)
  | case3 =>
    obtain ⟨width, -, h⟩ := bind_eq_ok.mp h
    exact .of_no_target (by rintro _ ⟨⟩) (target?_of_ofBits h)
  | case5 => cases h; exact .of_no_target (by rintro _ ⟨⟩) rfl
  | case7 => exact .of_no_target (by rintro _ ⟨⟩) (target?_of_ofBits h)
  | case8 => exact represents_of_pointerCtype h
  | case9 => cases h; exact .of_no_target (by rintro _ ⟨⟩) rfl
  | case10 name context => exact inner name context ctype h
  | case4 | case6 | case11 | case12 => cases h

theorem represents_of_ctypeOfReference (names : Names) : ∀ (depth : Nat) (name context : String)
    (ctype : Ctype), names.ctypeOfReference depth name context = .ok ctype →
    names.Represents (.ref name) ctype := by
  intro depth
  induction depth with
  | zero =>
    intro name context ctype h
    obtain ⟨_, -, h⟩ := bind_eq_ok.mp h
    cases h
  | succ depth ih =>
    intro name context ctype h
    obtain ⟨d, found, h⟩ := bind_eq_ok.mp h
    exact (represents_of_ctypeWith ih h).ref (Registry.get_eq_ok_iff.mp found)

/-- The representation of a type mentions the class of what the type points to. -/
theorem represents_of_ctype {type : NativeType} {context : String} {ctype : Ctype}
    (h : names.ctype type context = .ok ctype) : names.Represents type ctype :=
  represents_of_ctypeWith (names.represents_of_ctypeOfReference names.types.size) h

end Names
end NativeBindings
