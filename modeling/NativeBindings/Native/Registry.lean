import NativeBindings.Decimal
import NativeBindings.Fault

/-!
# Registries

Declarations by name, and the rules that they have to satisfy alone and together.
-/
namespace NativeBindings

/-!
## Declarations by name

A registry holds declarations in the order in which they were given, one under each name. That
names are distinct is part of the type, so a name leads to at most one declaration.
-/

/-- Where keys are distinct, a key finds the one item that has it. -/
theorem find?_key_eq_some_iff {α : Type} {key : α → String} {items : List α} {k : String} {item : α}
    (distinct : (items.map key).Nodup) :
    items.find? (key · == k) = some item ↔ item ∈ items ∧ key item = k := by
  constructor
  · intro h
    exact ⟨List.mem_of_find?_eq_some h, by simpa using List.find?_some h⟩
  · rintro ⟨mem, rfl⟩
    obtain ⟨before, after, rfl⟩ := List.append_of_mem mem
    rw [List.map_append, List.nodup_append] at distinct
    rw [List.find?_append, List.find?_eq_none.mpr]
    · simp
    · intro other hother same
      refine distinct.2.2 _ (List.mem_map_of_mem hother) _ List.mem_cons_self ?_
      simpa using same

/-- Declarations under pairwise distinct names (`TypeRegistry`). -/
structure Registry where
  declarations : List Declaration
  distinct : (declarations.map (·.name)).Nodup

namespace Registry

theorem eq_of_declarations {types types' : Registry}
    (h : types.declarations = types'.declarations) : types = types' := by
  cases types
  cases types'
  cases h
  rfl

def empty : Registry := ⟨[], by simp⟩

instance : Inhabited Registry := ⟨empty⟩

def names (types : Registry) : List String := types.declarations.map (·.name)

def size (types : Registry) : Nat := types.declarations.length

def has (types : Registry) (name : String) : Bool := types.names.contains name

def find? (types : Registry) (name : String) : Option Declaration :=
  types.declarations.find? (·.name == name)

def get (types : Registry) (name : String) : Except Fault Declaration :=
  match types.find? name with
  | some declaration => .ok declaration
  | none => .error (.undeclared name)

/-- Adds a declaration at the end; its name must be new. -/
def declare (types : Registry) (declaration : Declaration) : Except Fault Registry :=
  if new : declaration.name ∈ types.names then .error (.declaredTwice declaration.name)
  else .ok
    { declarations := types.declarations ++ [declaration]
      distinct := by
        simp only [List.map_append, List.map_cons, List.map_nil]
        refine List.nodup_append.mpr ⟨types.distinct, by simp, ?_⟩
        intro a ha b hb
        simp only [List.mem_singleton] at hb
        subst hb
        intro same
        exact new (same ▸ ha) }

def declareAll (types : Registry) (declarations : List Declaration) : Except Fault Registry :=
  declarations.foldlM declare types

/-- The registry of a list of declarations; the first name that repeats is reported. -/
def ofList (declarations : List Declaration) : Except Fault Registry :=
  empty.declareAll declarations

theorem names_declare {types types' : Registry} {declaration : Declaration}
    (h : types.declare declaration = .ok types') :
    types'.declarations = types.declarations ++ [declaration] := by
  unfold declare at h
  split at h
  · cases h
  · cases h; rfl

theorem declarations_declareAll {types types' : Registry} {declarations : List Declaration}
    (h : types.declareAll declarations = .ok types') :
    types'.declarations = types.declarations ++ declarations := by
  induction declarations generalizing types with
  | nil => cases h; simp
  | cons d ds ih =>
    simp only [declareAll, List.foldlM_cons] at h
    cases step : types.declare d with
    | error e => rw [step] at h; cases h
    | ok next =>
      rw [step] at h
      rw [ih h, names_declare step]
      simp

/-- A registry holds exactly the declarations it was made of. -/
theorem declarations_ofList {declarations : List Declaration} {types : Registry}
    (h : ofList declarations = .ok types) : types.declarations = declarations := by
  simpa [empty] using declarations_declareAll h

theorem declareAll_of_distinct (types : Registry) {declarations : List Declaration}
    (h : ((types.declarations ++ declarations).map (·.name)).Nodup) :
    types.declareAll declarations = .ok ⟨types.declarations ++ declarations, h⟩ := by
  induction declarations generalizing types with
  | nil => simp [declareAll, pure, Except.pure]
  | cons d ds ih =>
    have new : d.name ∉ types.names := by
      simp only [List.map_append, List.map_cons, List.nodup_append] at h
      exact fun old => h.2.2 _ old _ List.mem_cons_self rfl
    have distinct : ((types.declarations ++ [d]).map (·.name)).Nodup := h.sublist (by simp)
    have step : types.declare d = .ok ⟨types.declarations ++ [d], distinct⟩ := by
      simp [declare, new]
    simp only [declareAll, List.foldlM_cons, step]
    show (⟨types.declarations ++ [d], distinct⟩ : Registry).declareAll ds = _
    simpa using ih ⟨types.declarations ++ [d], distinct⟩ (by simpa using h)

theorem ofList_of_distinct {declarations : List Declaration}
    (h : (declarations.map (·.name)).Nodup) : ofList declarations = .ok ⟨declarations, h⟩ := by
  simpa [ofList, empty] using declareAll_of_distinct empty (by simpa [empty] using h)

theorem has_iff {types : Registry} {name : String} :
    types.has name = true ↔ ∃ d ∈ types.declarations, d.name = name := by
  simp [has, names]

/-- Under a name stands the one declaration that has it. -/
theorem find?_eq_some_iff {types : Registry} {name : String} {d : Declaration} :
    types.find? name = some d ↔ d ∈ types.declarations ∧ d.name = name :=
  find?_key_eq_some_iff types.distinct

theorem has_of_find? {types : Registry} {name : String} {d : Declaration}
    (h : types.find? name = some d) : types.has name = true :=
  has_iff.mpr ⟨d, find?_eq_some_iff.mp h⟩

theorem find?_of_has {types : Registry} {name : String} (h : types.has name = true) :
    ∃ d, types.find? name = some d := by
  obtain ⟨d, hd⟩ := has_iff.mp h
  exact ⟨d, find?_eq_some_iff.mpr hd⟩

@[simp]
theorem get_eq_ok_iff {types : Registry} {name : String} {d : Declaration} :
    types.get name = .ok d ↔ types.find? name = some d := by
  unfold get
  split <;> simp_all

end Registry

/-!
## Rules for declarations

What a declaration must satisfy on its own: references lead to declarations, array lengths are
positive, enums and structs stand only at the top, fields and variants have distinct names, and
discriminants are distinct and fit their tag. Which declarations it holds by value is
`NativeType.valueRefs`; cycles among them are looked for once every declaration has been checked.
-/

mutual

/-- The references a type holds by value, that is, outside every pointer, from left to right. -/
def NativeType.valueRefs : NativeType → List String
  | .ref name => [name]
  | .array element _ => element.valueRefs
  | .struct _ fields => fieldValueRefs fields
  | _ => []

def fieldValueRefs : List (Field NativeType) → List String
  | [] => []
  | ⟨_, type, _⟩ :: rest => type.valueRefs ++ fieldValueRefs rest

end

namespace Check

/-- A count that is positive and exact as a double. -/
def isPositiveCount (n : Int) : Bool := 0 < n && Binary64.isSafe n

/-- Checks a structural type (`validateTypeKind`). `context` says in messages where it stands. -/
def type (types : Registry) : NativeType → String → Except Fault Unit
  | .ref name, context =>
    if types.has name then .ok () else .error (.unknownReference context name)
  | .array element length, context =>
    if isPositiveCount length then type types element (context ++ "[]")
    else .error (.arrayLengthNotPositive context)
  | .pointer pointee _, context => type types pointee (context ++ ".*")
  | .enum tagBits variants, context => .error (.anonymous (.enum tagBits variants) context)
  | .struct layout fields, context => .error (.anonymous (.struct layout fields) context)
  | _, _ => .ok ()

/-- Checks the fields of a struct (`validateStruct`); `seen` are the names of the fields before. -/
def fields (types : Registry) (owner : String) (seen : List String) :
    List (Field NativeType) → Except Fault Unit
  | [] => .ok ()
  | field :: rest =>
    if field.name ∈ seen then .error (.fieldTwice owner field.name)
    else do
      type types field.type (owner ++ "." ++ field.name)
      fields types owner (seen ++ [field.name]) rest

/-- Does a discriminant fit in an unsigned tag? The bit length decides, so wide tags cost
nothing. -/
def fitsTag (tagBits value : Int) : Bool :=
  0 ≤ value && (value == 0 || (value.toNat.log2 : Int) < tagBits)

/-- Checks the variants of an enum (`validateEnum`); `seen` are the variants before. -/
def variants (owner : String) (tagBits : Int) (seen : List Variant) :
    List Variant → Except Fault Unit
  | [] => .ok ()
  | variant :: rest =>
    if seen.any (·.name == variant.name) then .error (.variantTwice owner variant.name)
    else if !fitsTag tagBits variant.value then
      .error (.variantTooWide owner variant.name variant.value tagBits)
    else match seen.find? (·.value == variant.value) with
      | some first => .error (.variantsShareValue owner first.name variant.name variant.value)
      | none => variants owner tagBits (seen ++ [variant]) rest

/-- The widest tag whose number of discriminants can still be represented. -/
def maxTagBits : Nat := 1073741823

/-- Checks one declaration (`validateDeclaration`). -/
def declaration (types : Registry) (d : Declaration) : Except Fault Unit :=
  match d.type with
  | .struct _ members => fields types d.name [] members
  | .enum tagBits members =>
    if !isPositiveCount tagBits then .error (.tagWidthNotPositive d.name)
    else if members.isEmpty then .error (.noVariants d.name)
    else if maxTagBits < tagBits then .error .tagWidthUnmanageable
    else variants d.name tagBits [] members
  | other => type types other d.name

def all (types : Registry) : Except Fault Unit := types.declarations.forM (declaration types)

end Check

/-!
## Cycles by value

No declaration may hold itself by value, directly or through others. The search walks the
references depth first from every declaration in turn. It keeps the path of declarations it is in
and the declarations it is done with; a reference back into the path is a cycle.
-/

def Registry.HoldsByValue (types : Registry) (a b : String) : Prop :=
  ∃ d, types.find? a = some d ∧ b ∈ d.type.valueRefs

namespace Registry

/-- The references a declaration holds by value, each once, in the order in which they first
occur. -/
def dependencies (types : Registry) (name : String) : List String :=
  match types.find? name with
  | some d => d.type.valueRefs.eraseDups
  | none => []

/-- What a search has found: a cycle, or the declarations that lead to none. -/
abbrev Search := Except (List String) (List String)

/-- Searches from one declaration. `path` leads to it and `finished` lead to no cycle. A path never
holds a name twice, so `depth`, the number of declarations, is never used up. -/
def searchFrom (types : Registry) : (depth : Nat) → (path : List String) →
    (finished : List String) → (name : String) → Search
  | 0, _, finished, _ => .ok finished
  | depth + 1, path, finished, name =>
    if name ∈ finished then .ok finished
    else if name ∈ path then .error (path.dropWhile (· != name) ++ [name])
    else do
      let done ← (types.dependencies name).foldlM
        (types.searchFrom depth (path ++ [name])) finished
      return name :: done

/-- A cycle by value, if there is one: a path of names that ends where it starts. -/
def valueCycle? (types : Registry) : Option (List String) :=
  match types.names.foldlM (types.searchFrom (types.size + 1) []) [] with
  | .error cycle => some cycle
  | .ok _ => none

/-- No declaration may hold itself by value (`assertNoValueCycles`). -/
def checkCycles (types : Registry) : Except Fault Unit :=
  match types.valueCycle? with
  | some cycle => .error (.valueCycle cycle)
  | none => .ok ()

/-- The registry of declarations that satisfy every rule (`buildTypeRegistry`). Repeated names are
reported first, then the declarations that break a rule, then cycles. -/
def build (declarations : List Declaration) : Except Fault Registry := do
  let types ← ofList declarations
  Check.all types
  types.checkCycles
  return types

end Registry
end NativeBindings
