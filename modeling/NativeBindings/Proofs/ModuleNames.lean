import NativeBindings.Proofs.ImportOrder

/-!
# The names that a module binds

A generated module binds generated names and names made from them. An enum, a packed struct, an
alias and a record have their generated name, and the structure class of a struct a name made from
its own; besides these there are imports, the native entry points and the mixins
(`Statement.binds`, with the line for each in `lines_of_binds`). Composing documents makes sure that
generated names are distinct, and nothing about the others. Two questions, each with its exact
answer in terms of the documents:

* `bound_names_distinct_iff`: does a module bind every name once? This asks that no generated name
  and no structure class is named as something that every module binds, and that no generated name
  is that of a structure class (`NamesApart`).
* `roles_defined_iff`: are the types that the entry points mention defined before them? They mention
  the generated names of the status and the handle, under which a struct has a record at most, so
  this asks that neither is a struct.

Neither holds of every composition: an enum can be named as the structure class of a struct
(`generated_name_shadows_class`), and the functions of the library may be said to return a struct
(`status_struct_undefined`).
-/
namespace NativeBindings

/-! ## Names bound by statements -/

namespace EntryPoints

/-- The names of the library's functions, which all start alike. -/
def symbols (start : String) : List String :=
  ["_init", "_init_echo", "_deinit", "_submit"].map (start ++ ·)

theorem lines_of_symbol (e : EntryPoints) {symbol : String} (h : symbol ∈ symbols e.symbolPrefix) :
    s!"{symbol} = {e.library}.{symbol}" ∈ e.lines := by
  have first (symbol result : String) (arguments : List String) :
      s!"{symbol} = {e.library}.{symbol}" ∈ function e.library symbol result arguments :=
    List.mem_cons_self
  simp only [symbols, List.map_cons, List.map_nil, List.mem_cons, List.not_mem_nil, or_false] at h
  rcases h with rfl | rfl | rfl | rfl <;>
    simp only [lines, List.mem_append, first, true_or, or_true]

end EntryPoints

def Preamble.standardImports : List String := ["annotations", "ctypes", "enum", "Callable", "Any"]

theorem Preamble.lines_of_standardImports (p : Preamble) {name : String}
    (h : name ∈ standardImports) :
    ∃ line ∈ p.lines, ∃ before after, line = before ++ ("import " ++ (name ++ after)) := by
  simp only [standardImports, List.mem_cons, List.not_mem_nil, or_false] at h
  have first {line : String} (h : line ∈ ["from __future__ import annotations", "", "import ctypes",
      "import enum", "from collections.abc import Callable # noqa: TCH003",
      "from typing import Any"]) : line ∈ p.lines :=
    List.mem_append_right (headerBox p.generatorName) (List.mem_append_left [_, _, _, _] h)
  rcases h with rfl | rfl | rfl | rfl | rfl
  · exact ⟨_, first (by decide), "from __future__ ", "", rfl⟩
  · exact ⟨_, first (by decide), "", "", rfl⟩
  · exact ⟨_, first (by decide), "", "", rfl⟩
  · exact ⟨_, first (by decide), "from collections.abc ", " # noqa: TCH003", rfl⟩
  · exact ⟨_, first (by decide), "from typing ", "", rfl⟩

namespace Statement

/-- The names that a statement binds, those from the standard library apart. -/
def binds : Statement → List String
  | .preamble p => Preamble.runtimeImports p.library
  | .definition d => [d.name]
  | .record r => [r.name]
  | .structureClass b => [b.className]
  | .structureFields _ => []
  | .entryPoints e => "OnCompletion" :: EntryPoints.symbols e.symbolPrefix
  | .mixin _ _ convention => [convention.className]

/-- The names that a statement binds to a type of native code or to an enum class. -/
def bindsTypes : Statement → List String
  | .definition d => [d.name]
  | .structureClass b => [b.className]
  | _ => []

/-- A line binds a name: it imports the name, assigns to it or begins a class of that name. -/
inductive Binds (name line : String) : Prop
  | imported (runtime : String) (names : List String) (h : name ∈ names)
      (same : line = s!"from {runtime} import " ++ String.intercalate ", " names)
  | assigned (value : String) (same : line = name ++ (" = " ++ value))
  | derivedClass (base : String) (same : line = "class " ++ (name ++ ("(" ++ base)))
  | plainClass (same : line = "class " ++ (name ++ ":"))

/-- A statement has a line for every name it binds. -/
theorem lines_of_binds {s : Statement} {name : String} (h : name ∈ s.binds) :
    ∃ line ∈ s.lines, Binds name line := by
  cases s with
  | preamble p =>
    refine ⟨_, ?_, .imported p.runtimeModule _ h rfl⟩
    simp only [lines, Preamble.lines, binds, List.mem_append, List.mem_cons, true_or, or_true]
  | definition d =>
    obtain rfl := List.mem_singleton.mp h
    rcases d with c | ⟨name, type⟩
    · refine ⟨_, List.mem_cons_self, .derivedClass (c.base.text ++ "):") ?_⟩
      simp only [toString, String.append_assoc, Definition.name]
    · refine ⟨_, List.mem_cons_self, .assigned type.text ?_⟩
      simp only [toString, String.append_assoc, Definition.name]
  | record r =>
    obtain rfl := List.mem_singleton.mp h
    refine ⟨s!"class {r.name}:", by simp [lines, Record.lines], .plainClass ?_⟩
    simp only [toString, String.append_assoc]
  | structureClass b =>
    obtain rfl := List.mem_singleton.mp h
    refine ⟨_, List.mem_cons_self, .derivedClass "ctypes.Structure):" ?_⟩
    simp only [toString, String.append_assoc, String.reduceAppend]
  | structureFields b => cases h
  | entryPoints e =>
    rcases List.mem_cons.mp h with rfl | symbol
    · refine ⟨_, List.mem_cons_of_mem _ List.mem_cons_self, .assigned
        (s!"ctypes.CFUNCTYPE(None, ctypes.c_void_p, {e.handle}, {e.packetPointer}, " ++
          "ctypes.c_uint64, ctypes.c_void_p, ctypes.c_uint32)") ?_⟩
      simp only [toString, ← String.append_assoc, String.reduceAppend]
    · refine ⟨_, e.lines_of_symbol symbol, .assigned s!"{e.library}.{name}" ?_⟩
      simp only [toString, String.append_assoc]
  | mixin methods operationEnum convention =>
    obtain rfl := List.mem_singleton.mp h
    refine ⟨_, List.mem_cons_self, .plainClass ?_⟩
    simp only [toString, String.append_assoc]

end Statement

/-- The names that a module binds, in the order in which it binds them. -/
def BindingModule.boundNames (m : BindingModule) : List String := m.statements.flatMap (·.binds)

/-- The names that statements bind are those that the text of the module binds: the text consists of
their lines in their order, and every name has a line that binds it. -/
structure BindingModule.NamesWritten (m : BindingModule) : Prop where
  text : m.text = Text.trimEnd (Text.ofLines (m.statements.flatMap (·.lines))) ++ "\n"
  bound : ∀ s ∈ m.statements, ∀ name ∈ s.binds, ∃ line ∈ s.lines, Statement.Binds name line
  imported : ∀ name ∈ Preamble.standardImports, ∃ line ∈ m.preamble.lines, ∃ before after,
    line = before ++ ("import " ++ (name ++ after))

theorem BindingModule.namesWritten (m : BindingModule) : m.NamesWritten where
  text := m.text_eq_statements
  bound _ _ _ := Statement.lines_of_binds
  imported _ := m.preamble.lines_of_standardImports

/-- Imports come first, then the definitions, the records, the structure classes, the entry points
and the mixins. -/
theorem BindingModule.boundNames_eq (m : BindingModule) :
    m.boundNames = Preamble.runtimeImports m.preamble.library ++
      (m.definitions.map (·.name) ++ m.records.map (·.name)) ++ m.bindings.map (·.className) ++
      ("OnCompletion" :: EntryPoints.symbols m.entryPoints.symbolPrefix ++
        Convention.all.map (·.className)) := by
  have classes : (m.bindings.flatMap (·.statements)).flatMap (·.binds) =
      m.bindings.map (·.className) := by
    rw [List.flatMap_assoc, List.map_eq_flatMap]
    rfl
  rw [boundNames, statements, List.flatMap_append, List.flatMap_append, classes, head, tail]
  simp only [List.flatMap_cons, List.flatMap_append, List.flatMap_map, Statement.binds,
    ← List.map_eq_flatMap, List.append_assoc, List.cons_append]

/-! ## Names that every module binds -/

namespace Client

/-- What every module of a client binds beside the handle of the library. -/
def reserved (client : Client) : List String :=
  [Naming.wideInteger, "dataclass", "validate_uint", "OnCompletion"] ++
    Convention.all.map (·.className) ++ EntryPoints.symbols client.symbolPrefix

/-- These names are distinct, also from the imports of the standard library. -/
theorem nodup_reserved (client : Client) :
    (Preamble.standardImports ++ client.reserved).Nodup := by
  rw [reserved, ← List.append_assoc, ← List.append_assoc]
  refine List.nodup_append.mpr ⟨by decide, ?_, ?_⟩
  · refine List.Nodup.map (fun ending ending' same => ?_) (by decide)
    exact String.append_right_inj client.symbolPrefix |>.mp same
  · -- No fixed name ends as a function of the library does.
    have ends : ∀ name ∈ Preamble.standardImports ++ [Naming.wideInteger, "dataclass",
          "validate_uint", "OnCompletion"] ++ Convention.all.map (·.className),
        ∀ ending ∈ ["_init", "_init_echo", "_deinit", "_submit"],
          ¬ ending.toList <:+ name.toList := by decide
    rintro name hname symbol hsymbol rfl
    obtain ⟨ending, hending, rfl⟩ := List.mem_map.mp hsymbol
    exact ends _ hname ending hending ⟨client.symbolPrefix.toList, by rw [String.toList_append]⟩

end Client

/-! ## Names from the name tables -/

/-- The generated name of an entry is bound, unless the entry is a struct of the protocol table,
which has no record. -/
def NamedDeclaration.bindsName (e : NamedDeclaration) : Bool := !e.isStruct || e.table == .domain

/-- The handle of the library, the reserved names, the generated names that are bound and the
structure classes are apart from each other. -/
structure NamesApart (library : String) (reserved : List String) (entries : List NamedDeclaration) :
    Prop where
  handle : library ∉ reserved
  names : ∀ e ∈ entries, e.bindsName = true → e.mapping.name ∉ library :: reserved
  classes : ∀ e ∈ entries, e.isStruct = true →
    Naming.structureClass e.mapping.name ∉ library :: reserved
  apart : ∀ e ∈ entries, e.bindsName = true → ∀ e' ∈ entries, e'.isStruct = true →
    e.mapping.name ≠ Naming.structureClass e'.mapping.name

def ownNames (entries : List NamedDeclaration) : List String :=
  (entries.filter (·.bindsName)).map (·.mapping.name)

def classNames (entries : List NamedDeclaration) : List String :=
  (entries.filter (·.isStruct)).map fun e => Naming.structureClass e.mapping.name

section Apart

variable {library name : String} {reserved : List String} {entries : List NamedDeclaration}

theorem mem_ownNames_iff : name ∈ ownNames entries ↔
    ∃ e ∈ entries, e.bindsName = true ∧ e.mapping.name = name := by
  simp only [ownNames, List.mem_map, List.mem_filter, and_assoc]

theorem mem_classNames_iff : name ∈ classNames entries ↔
    ∃ e ∈ entries, e.isStruct = true ∧ Naming.structureClass e.mapping.name = name := by
  simp only [classNames, List.mem_map, List.mem_filter, and_assoc]

theorem namesApart_iff_disjoint : NamesApart library reserved entries ↔ library ∉ reserved ∧
    (ownNames entries).Disjoint (classNames entries) ∧
      (library :: reserved).Disjoint (ownNames entries ++ classNames entries) := by
  constructor
  · rintro ⟨handle, names, classes, apart⟩
    refine ⟨handle, fun name own class' => ?_, fun name taken bound => ?_⟩
    · obtain ⟨e, he, binds, rfl⟩ := mem_ownNames_iff.mp own
      obtain ⟨e', he', struct, same⟩ := mem_classNames_iff.mp class'
      exact apart e he binds e' he' struct same.symm
    · rcases List.mem_append.mp bound with own | class'
      · obtain ⟨e, he, binds, rfl⟩ := mem_ownNames_iff.mp own
        exact names e he binds taken
      · obtain ⟨e, he, struct, rfl⟩ := mem_classNames_iff.mp class'
        exact classes e he struct taken
  · rintro ⟨handle, apart, free⟩
    have own {e : NamedDeclaration} (he : e ∈ entries) (binds : e.bindsName = true) :
        e.mapping.name ∈ ownNames entries := mem_ownNames_iff.mpr ⟨e, he, binds, rfl⟩
    have class' {e : NamedDeclaration} (he : e ∈ entries) (struct : e.isStruct = true) :
        Naming.structureClass e.mapping.name ∈ classNames entries :=
      mem_classNames_iff.mpr ⟨e, he, struct, rfl⟩
    exact {
      handle
      names := fun e he binds taken => free taken (List.mem_append_left _ (own he binds))
      classes := fun e he struct taken => free taken (List.mem_append_right _ (class' he struct))
      apart := fun e he binds e' he' struct same =>
        apart (own he binds) (same ▸ class' he' struct) }

end Apart

namespace Composition.Passes

variable {c : Composition} {entries : List NamedDeclaration} {m : BindingModule}
  (passes : c.Passes entries m)
include passes

theorem definition_names :
    m.definitions.map (·.name) = (entries.filter (!·.isStruct)).map (·.mapping.name) := by
  obtain ⟨definitions, ran, same⟩ := passes.definitions
  have each : definitions.map (Option.map Definition.name) =
      entries.map fun e => if e.isStruct then none else some e.mapping.name :=
    map_eq_of_mapM ran fun _ _ _ defined => NamedDeclaration.definition?_eq_ok defined
  have unbound : (fun e : NamedDeclaration => if e.isStruct then none else some e.mapping.name) =
      fun e => if !e.isStruct then some e.mapping.name else none := by
    funext e
    cases e.isStruct <;> rfl
  calc m.definitions.map (·.name)
    _ = definitions.filterMap (Option.map Definition.name) := by
      rw [same, List.map_filterMap]
      rfl
    _ = (entries.map fun e => if e.isStruct then none else some e.mapping.name).filterMap id := by
      rw [← each, List.filterMap_map]
      rfl
    _ = (entries.filter (!·.isStruct)).filterMap fun e => some e.mapping.name := by
      rw [List.filterMap_map, List.filterMap_filter, unbound]
      rfl
    _ = (entries.filter (!·.isStruct)).map (·.mapping.name) := by
      rw [← List.filterMap_eq_map]
      rfl

theorem record_names : m.records.map (·.name) =
    (entries.filter (fun e => e.isStruct && e.table == .domain)).map (·.mapping.name) := by
  obtain ⟨domain, hdomain, ran⟩ := passes.records
  rw [Names.domainEntries_eq_filter passes.listed hdomain, List.filter_filter] at ran
  refine map_eq_of_mapM ran fun e _ r built => ?_
  obtain ⟨fields, -, named, -⟩ := Record.build_eq_ok_iff.mp built
  exact named

theorem binding_names : m.bindings.map (·.className) = classNames entries := by
  refine map_eq_of_mapM passes.bindings fun e _ b built => ?_
  obtain ⟨fields, -, named, -⟩ := NamedDeclaration.binding_eq_ok built
  rw [StructBinding.className, named]

/-- Definitions and records together have the generated names that are bound. -/
theorem own_names_perm :
    (m.definitions.map (·.name) ++ m.records.map (·.name)).Perm (ownNames entries) := by
  rw [passes.definition_names, passes.record_names, ← List.map_append]
  refine List.Perm.map _ ?_
  have defined : (entries.filter (·.bindsName)).filter (!·.isStruct) =
      entries.filter (!·.isStruct) := by
    rw [List.filter_filter]
    refine List.filter_congr fun e _ => ?_
    cases struct : e.isStruct <;> simp [NamedDeclaration.bindsName, struct]
  have recorded : (entries.filter (·.bindsName)).filter (fun e => !!e.isStruct) =
      entries.filter (fun e => e.isStruct && e.table == .domain) := by
    rw [List.filter_filter]
    refine List.filter_congr fun e _ => ?_
    cases struct : e.isStruct <;> simp [NamedDeclaration.bindsName, struct]
  rw [← defined, ← recorded]
  exact List.filter_append_perm (fun e => !e.isStruct) (entries.filter (·.bindsName))

/-- A module binds the handle of the library, the reserved names, the generated names that are bound
and the structure classes, each as often as it stands here. -/
theorem boundNames_perm (library : m.preamble.library = c.client.library) : m.boundNames.Perm
    ((c.client.library :: c.client.reserved) ++ (ownNames entries ++ classNames entries)) := by
  have start : m.entryPoints.symbolPrefix = c.client.symbolPrefix := by
    obtain ⟨status, -, packet, -, handle, -, made⟩ := by
      simpa only [Composition.entryPoints, bind_eq_ok, pure_eq_ok] using passes.entryPoints
    rw [← made]
  have imports := List.mergeSort_perm
    [Naming.wideInteger, "dataclass", c.client.library, "validate_uint"] Text.unitsLe
  rw [m.boundNames_eq, library, start, passes.binding_names]
  -- The imports are sorted with the handle among them, so names are counted instead of moved.
  refine List.perm_iff_count.mpr fun name => ?_
  have imports := imports.count_eq name
  have own := passes.own_names_perm.count_eq name
  simp only [Preamble.runtimeImports, Text.sortByUnits, Client.reserved, List.count_append,
    List.count_cons, List.count_nil] at imports own ⊢
  omega

/-- The names of a module are distinct, from each other and from others that every module has,
exactly if names of the different kinds are apart. -/
theorem nodup_boundNames_iff (sound : c.Sound) (library : m.preamble.library = c.client.library)
    {others : List String} (fixed : (others ++ c.client.reserved).Nodup) :
    (others ++ m.boundNames).Nodup ↔
      NamesApart c.client.library (others ++ c.client.reserved) entries := by
  have names := sound.names.nodup_names passes.listed
  have own : (ownNames entries).Nodup := names.sublist (List.filter_sublist.map _)
  have classes : (classNames entries).Nodup := by
    have distinct : ((entries.filter (·.isStruct)).map (·.mapping.name)).Nodup :=
      names.sublist (List.filter_sublist.map _)
    have derived := distinct.map fun name name' same => String.append_right_inj "C" |>.mp same
    rwa [List.map_map] at derived
  have perm := (passes.boundNames_perm library).append_left others
  rw [← List.append_assoc] at perm
  rw [(perm.trans (List.perm_middle.append_right _)).nodup_iff, List.nodup_append',
    List.nodup_append', List.nodup_cons, namesApart_iff_disjoint]
  simp only [fixed, own, classes, and_true, true_and]

/-- A definition has the generated name of a type exactly if the type is no struct of the platform's
layout. -/
theorem exists_definition_iff (sound : c.Sound) {type name : String}
    (mapped : c.names.lookup type = some name) :
    (∃ d ∈ m.definitions, d.name = name) ↔ ¬ c.types.IsStruct type := by
  have listed : (∃ d ∈ m.definitions, d.name = name) ↔
      ∃ e ∈ entries, e.isStruct = false ∧ e.mapping.name = name := by
    rw [← List.mem_map (f := Definition.name), passes.definition_names]
    simp [and_assoc]
  rw [listed]
  constructor
  · rintro ⟨e, he, other, rfl⟩
    rw [← sound.names.lookup_injective (passes.lookup_of_mem sound he) mapped,
      ← passes.isStruct_iff he, other]
    exact Bool.false_ne_true
  · intro other
    obtain ⟨e, he, rfl, rfl⟩ := (sound.names.lookup_iff_of_all passes.listed).mp mapped
    exact ⟨e, he, Bool.eq_false_iff.mpr fun struct => other ((passes.isStruct_iff he).mp struct),
      rfl⟩

end Composition.Passes

/-! ## Types that the entry points mention -/

/-- The names that the entry points mention as types: those of the status and the handle, and the
structure class of packets. -/
def EntryPoints.typeNames (e : EntryPoints) : List String :=
  [e.status, e.handle, Naming.structureClass e.packet]

theorem EntryPoints.lines_of_typeNames {e : EntryPoints} {name : String} (h : name ∈ e.typeNames) :
    ∃ line ∈ e.lines, ∃ before after, line = before ++ name ++ after := by
  simp only [typeNames, List.mem_cons, List.not_mem_nil, or_false] at h
  rcases h with rfl | rfl | rfl
  · have second : e.symbolPrefix ++ "_init" ++ ".restype = " ++ e.status ∈ e.lines := by
      have inside : e.symbolPrefix ++ "_init" ++ ".restype = " ++ e.status ∈
          function e.library (e.symbolPrefix ++ "_init") e.status e.openArguments :=
        List.mem_cons_of_mem _ List.mem_cons_self
      simp only [lines, List.mem_append, inside, true_or, or_true]
    exact ⟨_, second, e.symbolPrefix ++ "_init" ++ ".restype = ", "", by rw [String.append_empty]⟩
  · refine ⟨_, List.mem_cons_of_mem _ List.mem_cons_self,
      "OnCompletion = ctypes.CFUNCTYPE(None, ctypes.c_void_p, ",
      s!", {e.packetPointer}, " ++ "ctypes.c_uint64, ctypes.c_void_p, ctypes.c_uint32)", ?_⟩
    simp only [toString, String.append_assoc]
  · refine ⟨_, List.mem_cons_of_mem _ List.mem_cons_self,
      s!"OnCompletion = ctypes.CFUNCTYPE(None, ctypes.c_void_p, {e.handle}, " ++ "ctypes.POINTER(",
      ")" ++ (", " ++ "ctypes.c_uint64, ctypes.c_void_p, ctypes.c_uint32)"), ?_⟩
    have pointer : e.packetPointer =
        "ctypes.POINTER(" ++ (Naming.structureClass e.packet ++ ")") := String.append_assoc ..
    simp only [pointer, toString, String.append_assoc]

/-- The argument types of the library's functions, by the end of their names. -/
def EntryPoints.argumentTypes (e : EntryPoints) : List (String × List String) :=
  let packets := s!"ctypes.POINTER(C{e.packet})"
  let opening := [s!"ctypes.POINTER({e.handle})", "c_uint128", "ctypes.c_char_p", "ctypes.c_uint32",
    "ctypes.c_void_p", "OnCompletion"]
  [("_init", opening), ("_init_echo", opening), ("_deinit", [e.handle]),
    ("_submit", [e.handle, packets])]

/-- What entry points mention as types stands in their lines: the status as what the functions that
open a client return, the handle and the packets as arguments. What statements bind to types is what
the text binds. -/
structure BindingModule.RolesWritten (m : BindingModule) (e : EntryPoints) : Prop where
  text : m.text = Text.trimEnd (Text.ofLines (m.statements.flatMap (·.lines))) ++ "\n"
  results : ∀ symbol ∈ ["_init", "_init_echo"],
    s!"{e.symbolPrefix}{symbol}.restype = {e.status}" ∈ e.lines
  arguments : ∀ symbol types, (symbol, types) ∈ e.argumentTypes →
    s!"{e.symbolPrefix}{symbol}.argtypes = [" ++ String.intercalate ", " types ++ "]" ∈ e.lines
  completion : s!"OnCompletion = ctypes.CFUNCTYPE(None, ctypes.c_void_p, {e.handle}, " ++
    s!"ctypes.POINTER(C{e.packet})" ++
    ", ctypes.c_uint64, ctypes.c_void_p, ctypes.c_uint32)" ∈ e.lines
  mentioned : ∀ name ∈ e.typeNames, ∃ line ∈ e.lines, ∃ before after,
    line = before ++ name ++ after
  bound : ∀ s ∈ m.statements, ∀ name ∈ s.bindsTypes, ∃ line ∈ s.lines, Statement.Binds name line

theorem Statement.binds_of_bindsTypes {s : Statement} {name : String} (h : name ∈ s.bindsTypes) :
    name ∈ s.binds := by
  cases s with
  | definition d => exact h
  | structureClass b => exact h
  | _ => cases h

namespace EntryPoints

variable (e : EntryPoints)

theorem packetPointer_eq : e.packetPointer = s!"ctypes.POINTER(C{e.packet})" := by
  simp [packetPointer, Naming.structureClass, toString, String.append_assoc,
    Ctype.pointer_class_append]

theorem function_subset_lines {symbol result : String} {arguments : List String}
    (h : (symbol, result, arguments) ∈ [("_init", e.status, e.openArguments),
      ("_init_echo", e.status, e.openArguments), ("_deinit", "None", [e.handle]),
      ("_submit", "None", [e.handle, e.packetPointer])]) :
    function e.library (e.symbolPrefix ++ symbol) result arguments ⊆ e.lines := by
  intro line hline
  simp only [List.mem_cons, Prod.mk.injEq, List.not_mem_nil, or_false] at h
  simp only [lines, List.mem_append]
  rcases h with ⟨rfl, rfl, rfl⟩ | ⟨rfl, rfl, rfl⟩ | ⟨rfl, rfl, rfl⟩ | ⟨rfl, rfl, rfl⟩ <;>
    simp only [hline, true_or, or_true]

theorem result_mem_lines {symbol : String} (h : symbol ∈ ["_init", "_init_echo"]) :
    s!"{e.symbolPrefix}{symbol}.restype = {e.status}" ∈ e.lines := by
  have second : s!"{e.symbolPrefix ++ symbol}.restype = {e.status}" ∈
      function e.library (e.symbolPrefix ++ symbol) e.status e.openArguments :=
    List.mem_cons_of_mem _ List.mem_cons_self
  refine e.function_subset_lines ?_ second
  rcases List.mem_pair.mp h with rfl | rfl
  · exact List.mem_cons_self
  · exact List.mem_cons_of_mem _ List.mem_cons_self

theorem arguments_mem_lines {symbol : String} {types : List String}
    (h : (symbol, types) ∈ e.argumentTypes) :
    s!"{e.symbolPrefix}{symbol}.argtypes = [" ++ String.intercalate ", " types ++ "]" ∈
      e.lines := by
  have third (result : String) :
      s!"{e.symbolPrefix ++ symbol}.argtypes = [" ++ String.intercalate ", " types ++ "]" ∈
        function e.library (e.symbolPrefix ++ symbol) result types :=
    List.mem_cons_of_mem _ (List.mem_cons_of_mem _ List.mem_cons_self)
  simp only [argumentTypes, ← packetPointer_eq, List.mem_cons, Prod.mk.injEq, List.not_mem_nil,
    or_false] at h
  rcases h with ⟨rfl, rfl⟩ | ⟨rfl, rfl⟩ | ⟨rfl, rfl⟩ | ⟨rfl, rfl⟩
  · exact e.function_subset_lines List.mem_cons_self (third e.status)
  · exact e.function_subset_lines (List.mem_cons_of_mem _ List.mem_cons_self) (third e.status)
  · exact e.function_subset_lines (by simp) (third "None")
  · exact e.function_subset_lines (by simp) (third "None")

end EntryPoints

theorem BindingModule.rolesWritten (m : BindingModule) (e : EntryPoints) : m.RolesWritten e where
  text := m.text_eq_statements
  results _ := e.result_mem_lines
  arguments _ _ := e.arguments_mem_lines
  completion := by
    have first : s!"OnCompletion = ctypes.CFUNCTYPE(None, ctypes.c_void_p, {e.handle}, " ++
        e.packetPointer ++ (", " ++ "ctypes.c_uint64, ctypes.c_void_p, ctypes.c_uint32)") ∈
          e.lines := by
      rw [← String.append_assoc]
      exact List.mem_cons_of_mem _ List.mem_cons_self
    rw [← e.packetPointer_eq]
    exact first
  mentioned _ := EntryPoints.lines_of_typeNames
  bound _ _ _ h := Statement.lines_of_binds (Statement.binds_of_bindsTypes h)

/-- The first pass binds the names of the status and the handle, and whatever the entry points
mention as a type is bound to one before. -/
structure BindingModule.RolesDefined (m : BindingModule) : Prop where
  status : ∃ d ∈ m.definitions, d.name = m.entryPoints.status
  handle : ∃ d ∈ m.definitions, d.name = m.entryPoints.handle
  types : Throughout (fun before s => s = .entryPoints m.entryPoints →
    ∀ name ∈ m.entryPoints.typeNames, ∃ s' ∈ before, name ∈ s'.bindsTypes) m.statements

theorem BindingModule.RolesDefined.of_bound {m : BindingModule}
    (status : ∃ d ∈ m.definitions, d.name = m.entryPoints.status)
    (handle : ∃ d ∈ m.definitions, d.name = m.entryPoints.handle)
    (packet : ∃ b ∈ m.bindings, b.name = m.entryPoints.packet) : m.RolesDefined := by
  have definition {name : String} (h : ∃ d ∈ m.definitions, d.name = name) :
      ∃ s ∈ m.head ++ m.bindings.flatMap (·.statements), name ∈ s.bindsTypes := by
    obtain ⟨d, hd, rfl⟩ := h
    refine ⟨.definition d, List.mem_append_left _ ?_, List.mem_singleton.mpr rfl⟩
    exact List.mem_cons_of_mem _ (List.mem_append_left _ (List.mem_map_of_mem hd))
  have structureClass : ∃ s ∈ m.head ++ m.bindings.flatMap (·.statements),
      Naming.structureClass m.entryPoints.packet ∈ s.bindsTypes := by
    obtain ⟨b, hb, same⟩ := packet
    refine ⟨.structureClass b, List.mem_append_right _ ?_, ?_⟩
    · exact List.mem_flatMap.mpr ⟨b, hb, List.mem_cons_self⟩
    · rw [← same]
      exact List.mem_singleton.mpr rfl
  refine ⟨status, handle, ?_⟩
  rw [statements, throughout_append]
  constructor
  · rintro before s after split rfl
    have hs : Statement.entryPoints m.entryPoints ∈
        m.head ++ m.bindings.flatMap (·.statements) := by simp [split]
    simp [head, StructBinding.statements] at hs
  · intro before s after _ _ name mentioned
    have bound : ∃ s ∈ m.head ++ m.bindings.flatMap (·.statements), name ∈ s.bindsTypes := by
      simp only [EntryPoints.typeNames, List.mem_cons, List.not_mem_nil, or_false] at mentioned
      rcases mentioned with rfl | rfl | rfl
      · exact definition status
      · exact definition handle
      · exact structureClass
    obtain ⟨s', hs', binds⟩ := bound
    exact ⟨s', List.mem_append_left before hs', binds⟩

/-! ## When names are distinct and roles defined -/

namespace Composition

variable {c : Composition} {m : BindingModule}

/-- A generated module binds every name once exactly if the generated names and the structure
classes are apart from each other, from the handle of the library and from the names that every
module binds; and it shadows no import of the standard library either if they are apart from those,
too. The names are those that the text binds. -/
theorem bound_names_distinct_iff {protocol domain : Document} {options : GeneratorOptions}
    (composed : compose protocol domain = .ok c)
    (generated : (c.generate options).runLog.1 = .ok m) :
    m.NamesWritten ∧ ∃ entries, c.names.all = .ok entries ∧
      (m.boundNames.Nodup ↔ NamesApart c.client.library c.client.reserved entries) ∧
      ((Preamble.standardImports ++ m.boundNames).Nodup ↔
        NamesApart c.client.library (Preamble.standardImports ++ c.client.reserved) entries) := by
  have sound := sound_of_compose composed
  obtain ⟨entries, passes⟩ := passes_of_generate generated
  have library : m.preamble.library = c.client.library := by rw [preamble_of_generate generated]
  have fixed := c.client.nodup_reserved
  refine ⟨m.namesWritten, entries, passes.listed, ?_,
    passes.nodup_boundNames_iff sound library fixed⟩
  have reserved : ([] ++ c.client.reserved).Nodup := (List.nodup_append.mp fixed).2.1
  simpa only [List.nil_append] using passes.nodup_boundNames_iff sound library reserved

theorem bound_names_distinct_iff_selfPointer : ∃ c m, compose .bareProtocol selfPointer = .ok c ∧
    (c.generate default).runLog.1 = .ok m ∧ (Preamble.standardImports ++ m.boundNames).Nodup := by
  refine ⟨_, _, rfl, rfl, ?_⟩
  obtain ⟨-, entries, listed, -, exactly⟩ :=
    @bound_names_distinct_iff _ _ .bareProtocol selfPointer default rfl rfl
  obtain rfl : selfPointerEntries = entries := Except.ok.inj listed
  exact exactly.mpr ⟨by decide, by decide, by decide, by decide⟩

/-- An enum with the name of the structure class of packets. -/
def crateAsPacketClass : Document :=
  .ofDeclarations [⟨"crate_t", .enum 8 [⟨"empty", 0⟩]⟩] [("crate_t", "CPacket")]

/-- Generated names are distinct, and yet two classes have the same name. -/
theorem generated_name_shadows_class : ∃ c m, compose .bareProtocol crateAsPacketClass = .ok c ∧
    (c.generate default).runLog.1 = .ok m ∧ ¬ m.boundNames.Nodup := by
  refine ⟨_, _, rfl, rfl, fun distinct => ?_⟩
  have behind := (List.nodup_append.mp distinct).2.1
  revert behind
  decide

/-- A generated module defines the types that the entry points mention exactly if neither the status
nor the handle is a struct of the platform's layout. What they mention stands in their lines. -/
theorem roles_defined_iff {protocol domain : Document} {options : GeneratorOptions}
    (composed : compose protocol domain = .ok c)
    (generated : (c.generate options).runLog.1 = .ok m) :
    m.RolesWritten m.entryPoints ∧
      c.names.lookup c.client.roles.status = some m.entryPoints.status ∧
      c.names.lookup c.client.roles.handle = some m.entryPoints.handle ∧
      c.names.lookup c.client.roles.packet = some m.entryPoints.packet ∧
      (m.RolesDefined ↔ ¬ c.types.IsStruct c.client.roles.status ∧
        ¬ c.types.IsStruct c.client.roles.handle) := by
  have sound := sound_of_compose composed
  obtain ⟨entries, passes⟩ := passes_of_generate generated
  have made := passes.entryPoints
  simp only [entryPoints, bind_eq_ok, pure_eq_ok, roleName, Names.require_eq_ok_iff, Roles.get]
    at made
  obtain ⟨status, hstatus, packet, hpacket, handle, hhandle, same⟩ := made
  have statusBound := passes.exists_definition_iff sound hstatus
  have handleBound := passes.exists_definition_iff sound hhandle
  have packetBound : ∃ b ∈ m.bindings, b.name = packet := by
    obtain ⟨d, fields, found, htype⟩ := sound.packetStruct
    exact (passes.exists_binding_iff sound).mpr
      ⟨c.client.roles.packet, ⟨d, fields, found, htype⟩, hpacket⟩
  obtain ⟨rfl, rfl, rfl⟩ : m.entryPoints.status = status ∧ m.entryPoints.packet = packet ∧
      m.entryPoints.handle = handle := by simp [← same]
  refine ⟨m.rolesWritten m.entryPoints, hstatus, hhandle, hpacket, ?_⟩
  rw [← statusBound, ← handleBound]
  constructor
  · exact fun defined => ⟨defined.status, defined.handle⟩
  · rintro ⟨status, handle⟩
    exact .of_bound status handle packetBound

theorem roles_defined_iff_selfPointer : ∃ c m, compose .bareProtocol selfPointer = .ok c ∧
    (c.generate default).runLog.1 = .ok m ∧ m.RolesDefined := by
  refine ⟨_, _, rfl, rfl, ?_⟩
  obtain ⟨-, -, -, -, exactly⟩ := @roles_defined_iff _ _ .bareProtocol selfPointer default rfl rfl
  refine exactly.mpr ⟨?_, ?_⟩ <;>
  · rintro ⟨d, fields, found, htype⟩
    cases found
    cases htype

/-- A protocol document with the struct of packets in the role of the status. -/
def structStatus : Document :=
  { Document.bareProtocol with
    client := some ⟨"lib", "wire", ⟨"op_t", "packet_t", "packet_t", "op_t"⟩⟩ }

/-- The functions are said to return a type of a name that the module does not bind. -/
theorem status_struct_undefined : ∃ c m, compose structStatus (.ofDeclarations [] []) = .ok c ∧
    (c.generate default).runLog.1 = .ok m ∧ ¬ m.RolesDefined ∧
      m.entryPoints.status ∉ m.boundNames := by
  refine ⟨_, _, rfl, rfl, fun defined => ?_, fun bound => ?_⟩
  · have status := defined.status
    revert status
    decide
  · rcases List.mem_append.mp bound with imported | later
    · have known := (List.mergeSort_perm _ _).mem_iff.mp imported
      revert known
      decide
    · revert later
      decide

end Composition
end NativeBindings
