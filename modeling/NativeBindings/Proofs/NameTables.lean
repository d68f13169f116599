import NativeBindings.Document.Composition
import NativeBindings.Proofs.Outcome
import Mathlib.Data.List.Nodup

/-!
# What joined name tables promise

Two tables can be joined when every mapped type is declared, none is in both tables and no generated
name is used twice (`join_eq_ok_iff`). From then on a generated name stands for one declaration
(`Sound.lookup_injective`), and every mapping has its declaration (`Sound.all_isOk`).

`build_isOk_iff_consistent` says the same of the lists of mappings that the tables are made of:
which of them can be joined (`Consistent`), and what can be found in the names then (`Finds`,
`Lists`).
-/
namespace NativeBindings.Names

/-! ## Joining -/

theorem lookup_eq_none_iff_not_mem {targets : List (String × String)} {name : String} :
    targets.lookup name = none ↔ name ∉ targets.map (·.1) := by
  rw [List.lookup_eq_none_iff, List.mem_map]
  constructor
  · rintro h ⟨p, hp, rfl⟩
    simpa using h p hp
  · intro h p hp
    simpa using fun same : name = p.1 => h ⟨p, hp, same.symm⟩

theorem checkTable_cons_eq_ok_iff {types : Registry} {kind : TableKind}
    {mappedBefore : String → Bool} {targets result : List (String × String)} {m : Mapping}
    {rest : List Mapping} :
    checkTable types kind mappedBefore targets (m :: rest) = .ok result ↔
      (types.has m.type = true ∧ mappedBefore m.type = false ∧ m.name ∉ targets.map (·.1)) ∧
      checkTable types kind mappedBefore (targets ++ [(m.name, m.type)]) rest = .ok result := by
  rw [← lookup_eq_none_iff_not_mem, checkTable]
  cases types.has m.type <;> cases mappedBefore m.type <;> cases targets.lookup m.name <;> simp

/-- A table passes when its types are declared and not mapped before, and its generated names are
new. -/
theorem checkTable_eq_ok_iff {types : Registry} {kind : TableKind} {mappedBefore : String → Bool}
    {targets result : List (String × String)} {mappings : List Mapping} :
    checkTable types kind mappedBefore targets mappings = .ok result ↔
      (∀ m ∈ mappings, types.has m.type = true ∧ mappedBefore m.type = false ∧
        m.name ∉ targets.map (·.1)) ∧
      (mappings.map (·.name)).Nodup ∧
      targets ++ mappings.map (fun m => (m.name, m.type)) = result := by
  induction mappings generalizing targets with
  | nil => simp [checkTable]
  | cons m rest ih =>
    rw [checkTable_cons_eq_ok_iff, ih]
    simp only [List.map_append, List.map_cons, List.map_nil, List.mem_append, List.mem_singleton,
      List.forall_mem_cons, List.nodup_cons, List.append_assoc, List.singleton_append, not_or]
    constructor
    · rintro ⟨first, others, distinct, same⟩
      refine ⟨⟨first, fun n hn => ?_⟩, ⟨?_, distinct⟩, same⟩
      · obtain ⟨declared, new, free, -⟩ := others n hn
        exact ⟨declared, new, free⟩
      · intro again
        obtain ⟨n, hn, twice⟩ := List.mem_map.mp again
        exact (others n hn).2.2.2 twice
    · rintro ⟨⟨first, others⟩, ⟨once, distinct⟩, same⟩
      refine ⟨first, fun n hn => ?_, distinct, same⟩
      obtain ⟨declared, new, free⟩ := others n hn
      exact ⟨declared, new, free, fun twice => once (twice ▸ List.mem_map_of_mem hn)⟩

/-- All mappings, those of the protocol table first. -/
def mappings (names : Names) : List Mapping := names.protocol.mappings ++ names.domain.mappings

/-- Mapped types are declared, none is in both tables, and no generated name is used twice. -/
structure Sound (names : Names) : Prop where
  declared : ∀ m ∈ names.mappings, names.types.has m.type = true
  apart : ∀ m ∈ names.domain.mappings, names.protocol.lookup m.type = none
  distinct : (names.mappings.map (·.name)).Nodup

/-- Two tables can be joined exactly if the result is sound. -/
theorem join_eq_ok_iff {types : Registry} {protocol domain : NameTable} {names : Names} :
    join types protocol domain = .ok names ↔ names = ⟨types, protocol, domain⟩ ∧ names.Sound := by
  simp only [join, bind_eq_ok, pure_eq_ok, checkTable_eq_ok_iff, List.map_nil, List.nil_append,
    List.not_mem_nil, not_false_eq_true, and_true]
  constructor
  · rintro ⟨_, ⟨declared, distinct, rfl⟩, _, ⟨declared', distinct', rfl⟩, rfl⟩
    refine ⟨rfl, ?_, ?_, ?_⟩
    · intro m hm
      rcases List.mem_append.mp hm with hm | hm
      · exact declared m hm
      · exact (declared' m hm).1
    · intro m hm
      simpa using (declared' m hm).2.1
    · rw [mappings, List.map_append, List.nodup_append]
      refine ⟨distinct, distinct', ?_⟩
      rintro a ha _ hb rfl
      obtain ⟨m, hm, rfl⟩ := List.mem_map.mp hb
      exact (declared' m hm).2.2 (by simpa using ha)
  · rintro ⟨rfl, declared, apart, distinct⟩
    rw [mappings, List.map_append, List.nodup_append] at distinct
    obtain ⟨distinct, distinct', fresh⟩ := distinct
    refine ⟨_, ⟨fun m hm => ?_, distinct, rfl⟩, _, ⟨fun m hm => ⟨?_, ?_, ?_⟩, distinct', rfl⟩, rfl⟩
    · exact declared m (List.mem_append_left _ hm)
    · exact declared m (List.mem_append_right _ hm)
    · simp [apart m hm]
    · intro again
      exact fresh m.name (by simpa using again) _ (List.mem_map_of_mem hm) rfl

/-- Names are built exactly if they are sound, and they are of the mappings that are given. -/
theorem build_eq_ok_iff {types : Registry} {protocol domain : List Mapping} {names : Names} :
    build types protocol domain = .ok names ↔ names.Sound ∧ names.types = types ∧
      (names.protocol.mappings = protocol ∧ names.protocol.kind = .protocol) ∧
      names.domain.mappings = domain ∧ names.domain.kind = .domain := by
  simp only [build, bind_eq_ok, NameTable.ofList_eq_ok_iff]
  constructor
  · rintro ⟨first, hfirst, second, hsecond, joined⟩
    obtain ⟨rfl, sound⟩ := join_eq_ok_iff.mp joined
    exact ⟨sound, rfl, hfirst, hsecond⟩
  · rintro ⟨sound, rfl, hfirst, hsecond⟩
    exact ⟨names.protocol, hfirst, names.domain, hsecond, join_eq_ok_iff.mpr ⟨rfl, sound⟩⟩

/-! ## Looking up -/

variable {names : Names}

namespace Sound

theorem lookup_eq_some_iff (sound : names.Sound) {type name : String} :
    names.lookup type = some name ↔ ∃ m ∈ names.mappings, m.type = type ∧ m.name = name := by
  simp only [mappings, List.mem_append, or_and_right, exists_or, ← NameTable.lookup_eq_some_iff]
  rw [lookup, Option.or_eq_some_iff]
  constructor
  · rintro (h | ⟨-, h⟩)
    · exact Or.inl h
    · exact Or.inr h
  · rintro (h | h)
    · exact Or.inl h
    · obtain ⟨m, hm, rfl, -⟩ := NameTable.lookup_eq_some_iff.mp h
      exact Or.inr ⟨sound.apart m hm, h⟩

/-- A generated name stands for one type. -/
theorem lookup_injective (sound : names.Sound) {type type' name : String}
    (h : names.lookup type = some name) (h' : names.lookup type' = some name) : type = type' := by
  obtain ⟨m, hm, rfl, hname⟩ := sound.lookup_eq_some_iff.mp h
  obtain ⟨m', hm', rfl, hname'⟩ := sound.lookup_eq_some_iff.mp h'
  rw [List.inj_on_of_nodup_map sound.distinct hm hm' (hname.trans hname'.symm)]

end Sound

/-! ## Mappings with their declarations -/

theorem resolve_eq_ok_iff {table : TableKind} {m : Mapping} {e : NamedDeclaration} :
    names.resolve table m = .ok e ↔
      e.table = table ∧ e.mapping = m ∧ names.types.find? m.type = some e.declaration := by
  simp only [resolve, bind_eq_ok, pure_eq_ok, Registry.get_eq_ok_iff]
  constructor
  · rintro ⟨d, hd, rfl⟩
    exact ⟨rfl, rfl, hd⟩
  · rintro ⟨rfl, rfl, hd⟩
    exact ⟨e.declaration, hd, rfl⟩

theorem mapM_resolve_eq_ok {table : TableKind} {mappings : List Mapping}
    {entries : List NamedDeclaration} (h : mappings.mapM (names.resolve table) = .ok entries) :
    entries.map (·.mapping) = mappings ∧ ∀ e ∈ entries,
      e.table = table ∧ names.types.find? e.mapping.type = some e.declaration := by
  rw [mapM_eq_ok] at h
  induction h with
  | nil => simp
  | cons first _ ih =>
    obtain ⟨rfl, rfl, hd⟩ := resolve_eq_ok_iff.mp first
    exact ⟨by simp [ih.1], List.forall_mem_cons.mpr ⟨⟨rfl, hd⟩, ih.2⟩⟩

theorem mapM_resolve_isOk (names : Names) (table : TableKind) {mappings : List Mapping}
    (declared : ∀ m ∈ mappings, names.types.has m.type = true) :
    ∃ entries, mappings.mapM (names.resolve table) = .ok entries := by
  refine mapM_isOk fun m hm => ?_
  obtain ⟨d, hd⟩ := Registry.find?_of_has (declared m hm)
  exact ⟨⟨table, m, d⟩, resolve_eq_ok_iff.mpr ⟨rfl, rfl, hd⟩⟩

/-- The mappings are listed with their declarations, the protocol table first. -/
theorem all_eq_ok {entries : List NamedDeclaration} (h : names.all = .ok entries) :
    ∃ protocol domain, entries = protocol ++ domain ∧ names.domainEntries = .ok domain ∧
      (∀ e ∈ protocol, e.table = .protocol) ∧ (∀ e ∈ domain, e.table = .domain) ∧
      entries.map (·.mapping) = names.mappings ∧
      ∀ e ∈ entries, names.types.find? e.mapping.type = some e.declaration := by
  simp only [all, bind_eq_ok, pure_eq_ok] at h
  obtain ⟨protocol, hprotocol, domain, hdomain, rfl⟩ := h
  obtain ⟨same, found⟩ := mapM_resolve_eq_ok hprotocol
  obtain ⟨same', found'⟩ := mapM_resolve_eq_ok hdomain
  refine ⟨protocol, domain, rfl, hdomain, fun e he => (found e he).1, fun e he => (found' e he).1,
    by rw [List.map_append, same, same', mappings], fun e he => ?_⟩
  rcases List.mem_append.mp he with he | he
  · exact (found e he).2
  · exact (found' e he).2

/-- The generated name of a type is that of its entry. -/
theorem Sound.lookup_iff_of_all (sound : names.Sound) {entries : List NamedDeclaration}
    (listed : names.all = .ok entries) {type name : String} :
    names.lookup type = some name ↔
      ∃ e ∈ entries, e.mapping.type = type ∧ e.mapping.name = name := by
  obtain ⟨-, -, -, -, -, -, same, -⟩ := all_eq_ok listed
  simp [sound.lookup_eq_some_iff, ← same]

/-- The generated names of the entries are distinct. -/
theorem Sound.nodup_names (sound : names.Sound) {entries : List NamedDeclaration}
    (listed : names.all = .ok entries) :
    (entries.map (·.mapping.name)).Nodup := by
  obtain ⟨-, -, -, -, -, -, same, -⟩ := all_eq_ok listed
  have distinct := sound.distinct
  rwa [← same, List.map_map] at distinct

theorem Sound.all_isOk (sound : names.Sound) : ∃ entries, names.all = .ok entries := by
  obtain ⟨protocol, hprotocol⟩ := names.mapM_resolve_isOk .protocol
    fun m hm => sound.declared m (List.mem_append_left _ hm)
  obtain ⟨domain, hdomain⟩ := names.mapM_resolve_isOk .domain
    fun m hm => sound.declared m (List.mem_append_right _ hm)
  refine ⟨protocol ++ domain, ?_⟩
  simp only [all, bind_eq_ok, pure_eq_ok]
  exact ⟨protocol, hprotocol, domain, hdomain, rfl⟩

/-! ## Lists of mappings -/

variable {types : Registry} {protocol domain : List Mapping} {entries : List NamedDeclaration}

/-- Two lists of mappings that can be the name tables of declarations. -/
structure Consistent (types : Registry) (protocol domain : List Mapping) : Prop where
  protocolOnce : (protocol.map (·.type)).Nodup
  domainOnce : (domain.map (·.type)).Nodup
  declared : ∀ m ∈ protocol ++ domain, types.has m.type = true
  apart : ∀ m ∈ protocol, ∀ m' ∈ domain, m.type ≠ m'.type
  targetsOnce : ((protocol ++ domain).map (·.name)).Nodup

/-- What can be found by the names of two lists of mappings. -/
structure Finds (names : Names) (protocol domain : List Mapping) : Prop where
  mapped : ∀ type name, names.lookup type = some name ↔
    ∃ m ∈ protocol ++ domain, m.type = type ∧ m.name = name
  defined : ∀ type, (names.lookup type).isSome = true ↔ type ∈ (protocol ++ domain).map (·.type)
  injective : ∀ type type' name, names.lookup type = some name → names.lookup type' = some name →
    type = type'
  ofDomain : ∀ type name, names.lookupDomain type = some name ↔
    names.lookup type = some name ∧ type ∈ domain.map (·.type)

/-- The entries of two lists of mappings: each mapping once, in order, with the declaration of its
type. -/
structure Lists (names : Names) (protocol domain : List Mapping)
    (entries : List NamedDeclaration) : Prop where
  inOrder : entries.map (fun e => (e.table, e.mapping)) =
    protocol.map (fun m => (.protocol, m)) ++ domain.map fun m => (.domain, m)
  once : (entries.map (·.mapping.type)).Nodup
  found : ∀ e ∈ entries, names.types.find? e.mapping.type = some e.declaration ∧
    e.declaration.name = e.mapping.type ∧ names.lookup e.mapping.type = some e.mapping.name

/-- Names are built exactly from consistent lists of mappings. -/
theorem consistent_iff_isOk : (∃ names, build types protocol domain = .ok names) ↔
    Consistent types protocol domain := by
  constructor
  · rintro ⟨names, built⟩
    obtain ⟨sound, rfl, ⟨rfl, -⟩, rfl, -⟩ := build_eq_ok_iff.mp built
    refine ⟨names.protocol.distinct, names.domain.distinct, sound.declared, ?_, sound.distinct⟩
    intro m hm m' hm'
    exact NameTable.lookup_eq_none_iff.mp (sound.apart m' hm') m hm
  · intro h
    let names : Names :=
      ⟨types, ⟨.protocol, protocol, h.protocolOnce⟩, ⟨.domain, domain, h.domainOnce⟩⟩
    have sound : names.Sound := by
      refine ⟨h.declared, ?_, h.targetsOnce⟩
      intro m hm
      exact NameTable.lookup_eq_none_iff.mpr fun first hfirst => h.apart first hfirst m hm
    exact ⟨names, build_eq_ok_iff.mpr ⟨sound, rfl, ⟨rfl, rfl⟩, rfl, rfl⟩⟩

namespace Sound

/-- The lookup in the domain table is the whole lookup, for the types of that table. -/
theorem lookupDomain_eq_some_iff (sound : names.Sound) {type name : String} :
    names.lookupDomain type = some name ↔
      names.lookup type = some name ∧ type ∈ names.domain.mappings.map (·.type) := by
  rw [lookupDomain, NameTable.lookup_eq_some_iff, sound.lookup_eq_some_iff]
  constructor
  · rintro ⟨m, hm, rfl, rfl⟩
    exact ⟨⟨m, List.mem_append_right _ hm, rfl, rfl⟩, List.mem_map_of_mem hm⟩
  · rintro ⟨⟨m, hm, rfl, rfl⟩, inDomain⟩
    obtain ⟨m', hm', same⟩ := List.mem_map.mp inDomain
    rcases List.mem_append.mp hm with hm | hm
    · exact absurd same.symm (NameTable.lookup_eq_none_iff.mp (sound.apart m' hm') m hm)
    · exact ⟨m, hm, rfl, rfl⟩

theorem finds (sound : names.Sound) :
    names.Finds names.protocol.mappings names.domain.mappings where
  mapped type name := sound.lookup_eq_some_iff
  defined type := by
    rw [Option.isSome_iff_exists, List.mem_map]
    constructor
    · rintro ⟨name, mapped⟩
      obtain ⟨m, hm, same, -⟩ := sound.lookup_eq_some_iff.mp mapped
      exact ⟨m, hm, same⟩
    · rintro ⟨m, hm, same⟩
      exact ⟨m.name, sound.lookup_eq_some_iff.mpr ⟨m, hm, same, rfl⟩⟩
  injective type type' name := sound.lookup_injective
  ofDomain type name := sound.lookupDomain_eq_some_iff

theorem nodup_types (sound : names.Sound) : (names.mappings.map (·.type)).Nodup := by
  rw [mappings, List.map_append, List.nodup_append]
  refine ⟨names.protocol.distinct, names.domain.distinct, ?_⟩
  intro type first type' second same
  obtain ⟨m, hm, rfl⟩ := List.mem_map.mp first
  obtain ⟨m', hm', rfl⟩ := List.mem_map.mp second
  exact NameTable.lookup_eq_none_iff.mp (sound.apart m' hm') m hm same

theorem lists (sound : names.Sound) (listed : names.all = .ok entries) :
    names.Lists names.protocol.mappings names.domain.mappings entries := by
  simp only [all, domainEntries, bind_eq_ok, pure_eq_ok] at listed
  obtain ⟨first, hfirst, second, hsecond, rfl⟩ := listed
  obtain ⟨mapped, found⟩ := mapM_resolve_eq_ok hfirst
  obtain ⟨mapped', found'⟩ := mapM_resolve_eq_ok hsecond
  have same : (first ++ second).map (·.mapping) = names.mappings := by
    rw [List.map_append, mapped, mapped', mappings]
  refine ⟨?_, ?_, ?_⟩
  · rw [← mapped, ← mapped', List.map_map, List.map_map, List.map_append]
    refine congrArg₂ _ (List.map_congr_left fun e he => ?_) (List.map_congr_left fun e he => ?_)
    · exact congrArg (·, e.mapping) (found e he).1
    · exact congrArg (·, e.mapping) (found' e he).1
  · have distinct := sound.nodup_types
    rwa [← same, List.map_map] at distinct
  · intro e he
    have declared : names.types.find? e.mapping.type = some e.declaration := by
      rcases List.mem_append.mp he with he | he
      · exact (found e he).2
      · exact (found' e he).2
    refine ⟨declared, (Registry.find?_eq_some_iff.mp declared).2, ?_⟩
    refine sound.lookup_eq_some_iff.mpr ⟨e.mapping, ?_, rfl, rfl⟩
    exact same ▸ List.mem_map_of_mem he

end Sound

/-- Both tables are made and joined exactly if no type is mapped twice, in one table or across both,
every mapped type is declared, and all generated names are distinct. Then every generated name
stands for one type, exactly the mapped types have one, looking up in the domain table is looking up
the types of that table, and all mappings can be listed: each once, in order, with the declaration
of its type. -/
theorem build_isOk_iff_consistent (types : Registry) (protocol domain : List Mapping) :
    ((∃ names, build types protocol domain = .ok names) ↔ Consistent types protocol domain) ∧
    ∀ names, build types protocol domain = .ok names →
      names.types = types ∧ names.Finds protocol domain ∧
        ∃ entries, names.all = .ok entries ∧ names.Lists protocol domain entries := by
  refine ⟨consistent_iff_isOk, ?_⟩
  intro names built
  obtain ⟨sound, same, ⟨rfl, -⟩, rfl, -⟩ := build_eq_ok_iff.mp built
  obtain ⟨entries, listed⟩ := sound.all_isOk
  exact ⟨same, sound.finds, entries, listed, sound.lists listed⟩

/-- Declarations whose native names are generated names of one another. -/
def swapped : Registry := ⟨[⟨"a", .bool⟩, ⟨"b", .void⟩, ⟨"c", .ref "a"⟩], by decide⟩

theorem build_isOk_iff_consistent_swapped :
    ∃ names, build swapped [⟨"b", "a", none⟩] [⟨"c", "b", none⟩, ⟨"a", "c", none⟩] = .ok names ∧
      names.Finds [⟨"b", "a", none⟩] [⟨"c", "b", none⟩, ⟨"a", "c", none⟩] ∧
      ∃ entries, names.all = .ok entries ∧
        names.Lists [⟨"b", "a", none⟩] [⟨"c", "b", none⟩, ⟨"a", "c", none⟩] entries := by
  refine ⟨_, rfl, ?_⟩
  exact ((build_isOk_iff_consistent swapped _ _).2 _ rfl).2

end NativeBindings.Names
