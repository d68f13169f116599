import NativeBindings.Native.Registry
import NativeBindings.Proofs.Outcome
import Mathlib.Data.List.Chain
import Mathlib.Data.List.Nodup
import Mathlib.Logic.Relation

/-!
# The graph of declarations that hold one another by value

A declaration holds another by value when its type mentions it outside every pointer. The search
for cycles (`Registry.searchFrom`) keeps the path it is on and the declarations it has finished.

* `Registry.Settled` is the invariant of what is finished: it is closed under holding by value and
  leads to no cycle. Every search extends it, or answers with a cycle (`searches_searchFrom`).
* `acyclic_iff_valueCycle?`: the search from every declaration finds nothing exactly if there is no
  cycle.
* `build_accepts_iff_acyclic`: declarations that satisfy their own rules make a registry exactly if
  none holds itself by value, and a refusal names a cycle that repeats nothing but its start.
-/
namespace NativeBindings

open Relation

/-! ## Holding by value -/

/-- A type mentions a name outside every pointer. -/
inductive NativeType.Embeds : NativeType → String → Prop
  | ref (name : String) : Embeds (.ref name) name
  | array {element : NativeType} {name : String} (length : Int) :
      Embeds element name → Embeds (.array element length) name
  | field {fields : Fields} {f : Field NativeType} {name : String} (layout : Layout) :
      f ∈ fields → Embeds f.type name → Embeds (.struct layout fields) name

/-- `a` is declared as a type that holds `b` by value. -/
def DeclaredHolding (declarations : List Declaration) (a b : String) : Prop :=
  ∃ d ∈ declarations, d.name = a ∧ d.type.Embeds b

mutual

theorem NativeType.embeds_of_mem_valueRefs : ∀ {type : NativeType} {name : String},
    name ∈ type.valueRefs → type.Embeds name
  | .ref _, _, h => by
    simp only [NativeType.valueRefs, List.mem_singleton] at h
    subst h
    exact .ref _
  | .array _ length, _, h =>
    .array length (NativeType.embeds_of_mem_valueRefs (by simpa [NativeType.valueRefs] using h))
  | .struct layout _, _, h => by
    obtain ⟨f, hf, h⟩ := embeds_of_mem_fieldValueRefs (by simpa [NativeType.valueRefs] using h)
    exact .field layout hf h
  | .bool, _, h | .void, _, h | .untyped, _, h => by simp [NativeType.valueRefs] at h
  | .int _ _, _, h | .float _, _, h | .pointer _ _, _, h | .enum _ _, _, h => by
    simp [NativeType.valueRefs] at h

theorem embeds_of_mem_fieldValueRefs : ∀ {fields : Fields} {name : String},
    name ∈ fieldValueRefs fields → ∃ f ∈ fields, f.type.Embeds name
  | [], _, h => by simp [fieldValueRefs] at h
  | ⟨_, _, _⟩ :: _, _, h => by
    simp only [fieldValueRefs, List.mem_append] at h
    rcases h with h | h
    · exact ⟨_, List.mem_cons_self, NativeType.embeds_of_mem_valueRefs h⟩
    · obtain ⟨f, hf, h⟩ := embeds_of_mem_fieldValueRefs h
      exact ⟨f, List.mem_cons_of_mem _ hf, h⟩

end

theorem mem_fieldValueRefs_of_mem {fields : Fields} {f : Field NativeType} {name : String}
    (hf : f ∈ fields) (h : name ∈ f.type.valueRefs) : name ∈ fieldValueRefs fields := by
  induction fields with
  | nil => cases hf
  | cons g rest ih =>
    simp only [fieldValueRefs, List.mem_append]
    rcases List.mem_cons.mp hf with rfl | hf
    · exact Or.inl h
    · exact Or.inr (ih hf)

theorem NativeType.mem_valueRefs_of_embeds {type : NativeType} {name : String}
    (h : type.Embeds name) : name ∈ type.valueRefs := by
  induction h with
  | ref name => simp [valueRefs]
  | array length _ ih => simpa [valueRefs] using ih
  | field layout hf _ ih => simpa [valueRefs] using mem_fieldValueRefs_of_mem hf ih

/-- The references that a type is computed to hold by value are those that it mentions outside
every pointer. -/
theorem NativeType.mem_valueRefs_iff {type : NativeType} {name : String} :
    name ∈ type.valueRefs ↔ type.Embeds name :=
  ⟨embeds_of_mem_valueRefs, mem_valueRefs_of_embeds⟩

namespace Registry

theorem holdsByValue_iff {types : Registry} {a b : String} :
    types.HoldsByValue a b ↔ DeclaredHolding types.declarations a b := by
  simp only [HoldsByValue, DeclaredHolding, find?_eq_some_iff, NativeType.mem_valueRefs_iff,
    and_assoc]

theorem mem_dependencies_iff {types : Registry} {a b : String} :
    b ∈ types.dependencies a ↔ types.HoldsByValue a b := by
  unfold dependencies HoldsByValue
  split <;> simp_all

theorem has_of_holdsByValue {types : Registry} {a b : String} (h : types.HoldsByValue a b) :
    types.has a = true := by
  obtain ⟨d, hd, _⟩ := h
  exact has_of_find? hd

/-- No declaration holds itself by value, directly or through others. -/
def Acyclic (types : Registry) : Prop := ∀ name, ¬ TransGen types.HoldsByValue name name

/-! ## The search -/

/-- A path that ends where it starts and repeats nothing else. -/
structure IsCycle (edge : String → String → Prop) (path : List String) : Prop where
  long : 2 ≤ path.length
  closed : path.head? = path.getLast?
  distinct : path.dropLast.Nodup
  edges : path.IsChain edge

/-- What a search has finished: whatever is held by value is finished too, and nothing leads to a
cycle. -/
structure Settled (types : Registry) (finished : List String) : Prop where
  closed : ∀ a ∈ finished, ∀ b, types.HoldsByValue a b → b ∈ finished
  acyclic : ∀ a ∈ finished, ¬ TransGen types.HoldsByValue a a

theorem settled_nil (types : Registry) : types.Settled [] where
  closed _ h := nomatch h
  acyclic _ h := nomatch h

theorem Settled.mem_of_transGen {types : Registry} {finished : List String}
    (h : types.Settled finished) {a b : String} (ha : a ∈ finished)
    (reach : TransGen types.HoldsByValue a b) : b ∈ finished := by
  induction reach with
  | single edge => exact h.closed a ha _ edge
  | tail _ edge ih => exact h.closed _ ih _ edge

/-- Once everything that a declaration holds by value is finished, so is the declaration: a cycle
through it would be one through what it holds. -/
theorem Settled.cons {types : Registry} {finished : List String} (h : types.Settled finished)
    {name : String} (holds : ∀ b, types.HoldsByValue name b → b ∈ finished) :
    types.Settled (name :: finished) := by
  refine ⟨?_, ?_⟩
  · intro a ha b edge
    rcases List.mem_cons.mp ha with rfl | ha
    · exact List.mem_cons_of_mem _ (holds b edge)
    · exact List.mem_cons_of_mem _ (h.closed a ha b edge)
  · intro a ha cycle
    rcases List.mem_cons.mp ha with rfl | ha
    · obtain ⟨b, edge, rest⟩ := TransGen.head'_iff.mp cycle
      have hb := holds b edge
      rcases reflTransGen_iff_eq_or_transGen.mp rest with rfl | rest
      · exact h.acyclic _ hb cycle
      · exact h.acyclic _ (h.mem_of_transGen hb rest) cycle
    · exact h.acyclic a ha cycle

/-- The answer of a search from `goals`: what was finished together with the goals, or a cycle. -/
def Searches (types : Registry) (finished goals : List String) : Search → Prop
  | .ok done => types.Settled done ∧ finished ⊆ done ∧ goals ⊆ done
  | .error cycle => IsCycle types.HoldsByValue cycle

/-- Searching from one name after another, if every single search answers. -/
theorem searches_foldlM {types : Registry} {step : List String → String → Search}
    {goals : List String} (each : ∀ name ∈ goals, ∀ finished, types.Settled finished →
      types.Searches finished [name] (step finished name)) :
    ∀ finished, types.Settled finished →
      types.Searches finished goals (goals.foldlM step finished) := by
  induction goals with
  | nil => intro finished h; exact ⟨h, List.Subset.refl _, List.nil_subset _⟩
  | cons name rest ih =>
    intro finished h
    have first := each name List.mem_cons_self finished h
    rw [List.foldlM_cons]
    cases hstep : step finished name with
    | error cycle => rw [hstep] at first; exact first
    | ok next =>
      rw [hstep] at first
      obtain ⟨settled, grows, reached⟩ := first
      have others := ih (fun n hn => each n (List.mem_cons_of_mem _ hn)) next settled
      show types.Searches finished (name :: rest) (rest.foldlM step next)
      cases hrest : rest.foldlM step next with
      | error cycle => rw [hrest] at others; exact others
      | ok done =>
        rw [hrest] at others
        obtain ⟨settled', grows', reached'⟩ := others
        refine ⟨settled', List.Subset.trans grows grows', ?_⟩
        exact List.cons_subset.mpr ⟨grows' (reached List.mem_cons_self), reached'⟩

/-- A reference back into the path closes a cycle. -/
theorem isCycle_of_mem_path {edge : String → String → Prop} {path : List String} {name : String}
    (distinct : path.Nodup) (edges : (path ++ [name]).IsChain edge) (back : name ∈ path) :
    IsCycle edge (path.dropWhile (· != name) ++ [name]) := by
  obtain ⟨before, after, rfl, fresh⟩ := List.eq_append_cons_of_mem back
  have skip : ∀ a ∈ before, (a != name) = true := fun a ha => by
    simpa using fun same : a = name => fresh (same ▸ ha)
  have cut : (before ++ name :: after).dropWhile (· != name) = name :: after := by
    rw [List.dropWhile_append_of_pos skip, List.dropWhile_cons_of_neg (by simp)]
  rw [cut]
  refine ⟨by simp, ?_, ?_, ?_⟩
  · rw [List.getLast?_concat, List.cons_append, List.head?_cons]
  · rw [List.dropLast_concat]
    exact distinct.sublist (List.sublist_append_right before _)
  · rw [List.append_assoc] at edges
    exact edges.right_of_append

/-- A path of declared names holds no more names than there are. -/
theorem length_le_size {types : Registry} {path : List String} (distinct : path.Nodup)
    (declared : ∀ name ∈ path, types.has name = true) : path.length ≤ types.size := by
  have bound := distinct.length_le_of_subset
    fun name h => List.contains_iff_mem.mp (declared name h)
  simpa [names, size] using bound

/-- Searching from a name that a path leads to. The depth that is left and the path together make
one more than the number of declarations, so the depth is not used up. -/
theorem searches_searchFrom (types : Registry) : ∀ (depth : Nat) (path : List String)
    (name : String), path.Nodup → (∀ a ∈ path, types.has a = true) →
    (path ++ [name]).IsChain types.HoldsByValue → depth + path.length = types.size + 1 →
    ∀ finished, types.Settled finished →
      types.Searches finished [name] (types.searchFrom depth path finished name) := by
  intro depth
  induction depth with
  | zero =>
    intro path name distinct declared _ hdepth
    have := length_le_size distinct declared
    omega
  | succ depth ih =>
    intro path name distinct declared edges hdepth finished settled
    unfold searchFrom
    split
    · rename_i done
      exact ⟨settled, List.Subset.refl _, List.cons_subset.mpr ⟨done, List.nil_subset _⟩⟩
    split
    · rename_i back
      exact isCycle_of_mem_path distinct edges back
    rename_i fresh
    have each : ∀ b ∈ types.dependencies name, ∀ finished, types.Settled finished →
        types.Searches finished [b] (types.searchFrom depth (path ++ [name]) finished b) := by
      intro b hb
      have edge := mem_dependencies_iff.mp hb
      refine ih (path ++ [name]) b ?_ ?_ ?_ (by simp; omega)
      · simpa using List.Nodup.concat fresh distinct
      · intro a ha
        rcases List.mem_append.mp ha with ha | ha
        · exact declared a ha
        · rw [List.mem_singleton.mp ha]
          exact has_of_holdsByValue edge
      · exact edges.append (.singleton b) (by simpa using edge)
    have inner := searches_foldlM each finished settled
    cases hfold : (types.dependencies name).foldlM (types.searchFrom depth (path ++ [name]))
        finished with
    | error cycle =>
      rw [hfold] at inner
      exact inner
    | ok done =>
      rw [hfold] at inner
      obtain ⟨settled', grows, reached⟩ := inner
      refine ⟨settled'.cons fun b edge => reached (mem_dependencies_iff.mpr edge), ?_, ?_⟩
      · exact List.subset_cons_of_subset _ grows
      · exact List.cons_subset.mpr ⟨List.mem_cons_self, List.nil_subset _⟩

/-! ## The answer -/

theorem searches_all (types : Registry) :
    types.Searches [] types.names
      (types.names.foldlM (types.searchFrom (types.size + 1) []) []) := by
  refine searches_foldlM (fun name _ => ?_) [] (settled_nil types)
  exact types.searches_searchFrom (types.size + 1) [] name List.nodup_nil (fun _ h => nomatch h)
    (.singleton name) rfl

/-- A cycle leads from its start back to it. -/
theorem IsCycle.transGen {edge : String → String → Prop} {path : List String}
    (h : IsCycle edge path) : ∃ a, TransGen edge a a := by
  obtain ⟨long, closed, -, edges⟩ := h
  match path, long with
  | a :: b :: rest, _ =>
    obtain ⟨edge, chain⟩ := List.isChain_cons_cons.mp edges
    have last : (b :: rest).getLast (List.cons_ne_nil b rest) = a := by
      rw [List.getLast?_cons_cons, List.getLast?_eq_some_getLast (List.cons_ne_nil b rest)]
        at closed
      simpa using closed.symm
    exact ⟨a, .head' edge (List.relationReflTransGen_of_exists_isChain_cons rest chain last)⟩

/-- The search answers with a cycle if there is one by value, and only then. -/
theorem acyclic_iff_valueCycle? {types : Registry} :
    types.Acyclic ↔ types.valueCycle? = none := by
  have all := types.searches_all
  unfold valueCycle?
  cases hfold : types.names.foldlM (types.searchFrom (types.size + 1) []) [] with
  | error cycle =>
    rw [hfold] at all
    obtain ⟨a, ha⟩ := IsCycle.transGen all
    simpa using fun h : types.Acyclic => h a ha
  | ok done =>
    rw [hfold] at all
    obtain ⟨settled, -, reached⟩ := all
    simp only [iff_true]
    intro a cycle
    obtain ⟨b, edge, -⟩ := TransGen.head'_iff.mp cycle
    exact settled.acyclic a (reached (List.contains_iff_mem.mp (has_of_holdsByValue edge))) cycle

theorem isCycle_of_valueCycle? {types : Registry} {cycle : List String}
    (h : types.valueCycle? = some cycle) : IsCycle types.HoldsByValue cycle := by
  have all := types.searches_all
  unfold valueCycle? at h
  split at h
  · rename_i found hfold
    cases h
    rw [hfold] at all
    exact all
  · cases h

/-! ## Registries that are accepted -/

theorem checkCycles_eq_ok_iff {types : Registry} :
    types.checkCycles = .ok () ↔ types.Acyclic := by
  rw [acyclic_iff_valueCycle?]
  unfold checkCycles
  split <;> simp_all

/-- A registry is built from exactly its declarations, when each satisfies its own rules and none
holds itself by value. -/
theorem build_eq_ok_iff {declarations : List Declaration} {types : Registry} :
    build declarations = .ok types ↔
      types.declarations = declarations ∧ Check.all types = .ok () ∧ types.Acyclic := by
  simp only [build, bind_eq_ok, pure_eq_ok]
  constructor
  · rintro ⟨found, made, _, checked, _, searched, rfl⟩
    exact ⟨declarations_ofList made, checked, checkCycles_eq_ok_iff.mp searched⟩
  · rintro ⟨rfl, checked, acyclic⟩
    exact ⟨types, ofList_of_distinct types.distinct, (), checked, (),
      checkCycles_eq_ok_iff.mpr acyclic, rfl⟩

/-- Declarations that satisfy their own rules are refused only for a cycle. -/
theorem build_eq_error {types : Registry} (checked : Check.all types = .ok ()) {fault : Fault}
    (refused : build types.declarations = .error fault) :
    ∃ cycle, fault = .valueCycle cycle ∧ IsCycle types.HoldsByValue cycle := by
  have search : build types.declarations = types.checkCycles >>= fun _ => pure types := by
    simp only [build, ofList_of_distinct types.distinct]
    show (Check.all types >>= fun _ => types.checkCycles >>= fun _ => pure types) = _
    rw [checked]
    rfl
  rw [search] at refused
  cases found : types.valueCycle? with
  | none => simp [checkCycles, found, bind, Except.bind, pure, Except.pure] at refused
  | some cycle =>
    simp only [checkCycles, found, bind, Except.bind, Except.error.injEq] at refused
    exact ⟨cycle, refused.symm, isCycle_of_valueCycle? found⟩

theorem all_eq_ok_iff {types : Registry} :
    Check.all types = .ok () ↔ ∀ d ∈ types.declarations, Check.declaration types d = .ok () :=
  forM_eq_ok

end Registry

/-- Declarations that satisfy their own rules make a registry exactly if none holds itself by value,
directly or through others. A refusal gives such a cycle: it ends where it starts, repeats nothing
else, and each name on it holds the next one by value. -/
theorem build_accepts_iff_acyclic {declarations : List Declaration}
    (distinct : (declarations.map (·.name)).Nodup)
    (valid : ∀ d ∈ declarations, Check.declaration ⟨declarations, distinct⟩ d = .ok ()) :
    ((∃ types, Registry.build declarations = .ok types ∧ types.declarations = declarations) ↔
      ∀ name, ¬ TransGen (DeclaredHolding declarations) name name) ∧
    ∀ fault, Registry.build declarations = .error fault →
      ∃ cycle, fault = .valueCycle cycle ∧ fault.details = [("cycle", .names cycle)] ∧
        Registry.IsCycle (DeclaredHolding declarations) cycle := by
  let types : Registry := ⟨declarations, distinct⟩
  have edges : types.HoldsByValue = DeclaredHolding declarations := by
    funext a b
    exact propext Registry.holdsByValue_iff
  have checked : Check.all types = .ok () := Registry.all_eq_ok_iff.mpr valid
  rw [← edges]
  refine ⟨⟨?_, ?_⟩, ?_⟩
  · rintro ⟨built, accepted, same⟩
    obtain rfl : built = types := by cases built; cases same; rfl
    exact (Registry.build_eq_ok_iff.mp accepted).2.2
  · intro acyclic
    exact ⟨types, Registry.build_eq_ok_iff.mpr ⟨rfl, checked, acyclic⟩, rfl⟩
  · intro fault refused
    obtain ⟨cycle, rfl, genuine⟩ := types.build_eq_error checked refused
    exact ⟨cycle, rfl, rfl, genuine⟩

/-- Two declarations that hold each other, entered from a third. -/
def ring : List Declaration :=
  [⟨"outer", .struct .cAbi [⟨"items", .array (.ref "a") 2, false⟩]⟩,
    ⟨"a", .struct .cAbi [⟨"b", .ref "b", false⟩]⟩, ⟨"b", .ref "a"⟩]

/-- The same with the way back behind a pointer. -/
def cutRing : List Declaration :=
  [⟨"outer", .struct .cAbi [⟨"items", .array (.ref "a") 2, false⟩]⟩,
    ⟨"a", .struct .cAbi [⟨"b", .ref "b", false⟩]⟩, ⟨"b", .pointer (.ref "a") false⟩]

theorem build_accepts_iff_acyclic_ring :
    ((∀ d ∈ ring, Check.declaration ⟨ring, by decide⟩ d = .ok ()) ∧
      Registry.IsCycle (DeclaredHolding ring) ["a", "b", "a"]) ∧
    (∀ d ∈ cutRing, Check.declaration ⟨cutRing, by decide⟩ d = .ok ()) ∧
      ∀ name, ¬ TransGen (DeclaredHolding cutRing) name name := by
  have valid : ∀ d ∈ ring, Check.declaration ⟨ring, by decide⟩ d = .ok () := by
    simp only [ring, List.forall_mem_cons]
    exact ⟨rfl, rfl, rfl, List.forall_mem_nil _⟩
  have valid' : ∀ d ∈ cutRing, Check.declaration ⟨cutRing, by decide⟩ d = .ok () := by
    simp only [cutRing, List.forall_mem_cons]
    exact ⟨rfl, rfl, rfl, List.forall_mem_nil _⟩
  refine ⟨⟨valid, ?_⟩, valid', ?_⟩
  · obtain ⟨cycle, same, -, genuine⟩ :=
      (build_accepts_iff_acyclic _ valid).2 (.valueCycle ["a", "b", "a"]) rfl
    cases same
    exact genuine
  · exact (build_accepts_iff_acyclic _ valid').1.mp ⟨_, rfl, rfl⟩

end NativeBindings
