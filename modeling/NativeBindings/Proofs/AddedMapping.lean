import NativeBindings.Proofs.ExtendedNames
import NativeBindings.Proofs.Methods
import NativeBindings.Proofs.Statements
import Mathlib.Data.List.TakeWhile

/-!
# One more mapping

A composition grows by a mapping if the mapping is put at the end of its domain table and nothing
else changes (`Composition.GrowsBy`). What is generated for the other mappings stays as it was, and
what the mapping becomes is put at the end of its pass (`NamedDeclaration.Becomes`,
`BindingModule.append`).

A new name does change what some steps do: a field is read back through the class of its type if
the domain table has one. No such step meets the new name if the smaller composition is generated,
for a field that is read back has a type hint, which fails without that class
(`Composition.Passes.readsAlike`).

* `Composition.GrowsBy.append`: the module of the one is that of the other with a few more blocks.
* `BindingModule.text_eq_body`: what the blocks are in the text.
* `Composition.added_mapping_appends`: both together.
-/
namespace NativeBindings

/-! ## One more item -/

theorem SameUnless.mapM_concat {α β : Type} {kind : Fault → Prop} {f g : α → Except Fault β}
    {xs : List α} {x : α} {ys ys' : List β} (each : ∀ z ∈ xs, SameUnless kind (f z) (g z))
    (ran : xs.mapM f = .ok ys) (ran' : (xs ++ [x]).mapM g = .ok ys') :
    ∃ y, g x = .ok y ∧ ys' = ys ++ [y] := by
  have first : xs.mapM g = .ok ys := (SameUnless.mapM each).eq_ok ran
  simp only [List.mapM_append, first, List.mapM_cons, List.mapM_nil, bind_eq_ok, pure_eq_ok,
    Except.ok.injEq, exists_eq_left'] at ran'
  obtain ⟨_, ⟨y, made, rfl⟩, rfl⟩ := ran'
  exact ⟨y, made, rfl⟩

/-- The same for the items that pass a test. -/
theorem SameUnless.mapM_filter_concat {α β : Type} {kind : Fault → Prop}
    {f g : α → Except Fault β} {p : α → Bool} {xs : List α} {x : α} {ys ys' : List β}
    (each : ∀ z ∈ xs.filter p, SameUnless kind (f z) (g z)) (ran : (xs.filter p).mapM f = .ok ys)
    (ran' : ((xs ++ [x]).filter p).mapM g = .ok ys') :
    if p x then ∃ y, g x = .ok y ∧ ys' = ys ++ [y] else ys' = ys := by
  cases test : p x with
  | true =>
    simp only [List.filter_append, List.filter_cons, test, ↓reduceIte, List.filter_nil] at ran'
    exact mapM_concat each ran ran'
  | false =>
    simp only [List.filter_append, List.filter_cons, test, Bool.false_eq_true, ↓reduceIte,
      List.filter_nil, List.append_nil, (SameUnless.mapM each).eq_ok ran] at ran'
    exact (Except.ok.inj ran').symm

/-! ## The text of a module, block by block -/

namespace Text

theorem isBlankString_append (s t : String) :
    isBlankString (s ++ t) = (isBlankString s && isBlankString t) := by
  simp only [isBlankString, String.toList_append, List.all_append]

/-- Blanks are cut off the end alone if that is not all blank. -/
theorem trimEnd_append {s t : String} (h : isBlankString t = false) :
    trimEnd (s ++ t) = s ++ trimEnd t := by
  have stops : (t.toList.reverse.dropWhile isBlank).isEmpty = false := by
    rw [Bool.eq_false_iff, ne_eq, List.isEmpty_iff, List.dropWhile_eq_nil_iff]
    intro blank
    simp only [isBlankString, List.all_eq_false] at h
    obtain ⟨c, hc, solid⟩ := h
    exact solid (blank c (List.mem_reverse.mpr hc))
  simp only [trimEnd, trimEndChars, String.toList_append, List.reverse_append,
    List.dropWhile_append, stops, Bool.false_eq_true, ↓reduceIte, List.reverse_reverse,
    String.ofList_append, String.ofList_toList]

end Text

namespace BindingModule

/-- The blocks before the entry points. -/
def body (m : BindingModule) : List (List String) :=
  [m.preamble.lines] ++ m.definitions.map (·.lines) ++ m.records.map (·.lines) ++
    m.bindings.map (·.lines)

/-- The blocks from the entry points on. -/
def closing (m : BindingModule) : List (List String) :=
  m.entryPoints.lines :: Convention.all.map (mixinLines m.methods m.operationEnum)

/-- The text from the entry points on. -/
def ending (m : BindingModule) : String :=
  Text.trimEnd (Text.ofLines m.closing.flatten) ++ "\n"

/-- The text is the blocks before the entry points, whole, and the rest. -/
theorem text_eq_body (m : BindingModule) : m.text = Text.ofLines m.body.flatten ++ m.ending := by
  have solid : Text.isBlankString (Text.ofLines m.closing.flatten) = false := by
    have comment : Text.isBlankString
        "# bytes_ptr is not a c_char_p: that type is for null-terminated strings only." = false :=
      rfl
    simp only [closing, List.flatten_cons, EntryPoints.lines, List.cons_append, Text.ofLines_cons,
      Text.isBlankString_append, comment, Bool.false_and]
  have split : m.blocks = m.body ++ m.closing := by
    simp only [blocks, body, closing, List.append_assoc, List.cons_append, List.nil_append]
  rw [text, Text.join_ofLines, split, List.flatten_append, Text.ofLines_append,
    Text.trimEnd_append solid, String.append_assoc, ending]

/-- The module with more definitions, records and bindings, each at the end of its pass. -/
def append (m : BindingModule) (definitions : List Definition) (records : List Record)
    (bindings : List StructBinding) : BindingModule :=
  { m with
    definitions := m.definitions ++ definitions
    records := m.records ++ records
    bindings := m.bindings ++ bindings }

end BindingModule

/-- What an entry of the domain table becomes: a record and a binding if it is a struct of the
platform's layout, and else one definition. -/
inductive NamedDeclaration.Becomes (names : Names) (e : NamedDeclaration) :
    List Definition → List Record → List StructBinding → Prop
  | definition {d : Definition} (other : e.isStruct = false)
      (defined : e.definition? names = .ok (some d)) : Becomes names e [d] [] []
  | struct {r : Record} {b : StructBinding} (struct : e.isStruct = true)
      (recorded : e.record names = .ok r) (bound : e.binding names = .ok b) :
      Becomes names e [] [r] [b]

/-! ## A composition that grows -/

namespace Composition

/-- The composition with another domain table and everything else as it is. -/
def withDomain (c : Composition) (domain : NameTable) : Composition :=
  { c with names := { c.names with domain } }

/-- The other composition has one more mapping at the end of its domain table. -/
structure GrowsBy (c : Composition) (extra : Mapping) (c' : Composition) : Prop where
  same : c' = c.withDomain c'.names.domain
  mappings : c'.names.domain.mappings = c.names.domain.mappings ++ [extra]

variable {c c' : Composition} {extra : Mapping} {entries entries' : List NamedDeclaration}
  {m m' : BindingModule}

namespace GrowsBy

section Tables

variable (h : c.GrowsBy extra c')
include h

theorem types_eq : c'.types = c.types := by rw [h.same]; rfl

theorem client_eq : c'.client = c.client := by rw [h.same]; rfl

theorem operations_eq : c'.operations = c.operations := by rw [h.same]; rfl

theorem protocol_eq : c'.names.protocol = c.names.protocol := by rw [h.same]; rfl

theorem lookupDomain {type name : String} (mapped : c.names.lookupDomain type = some name) :
    c'.names.lookupDomain type = some name := by
  obtain ⟨m, hm, rfl, rfl⟩ := NameTable.lookup_eq_some_iff.mp mapped
  refine NameTable.lookup_eq_some_iff.mpr ⟨m, ?_, rfl, rfl⟩
  rw [h.mappings]
  exact List.mem_append_left [extra] hm

theorem lookup {type name : String} (mapped : c.names.lookup type = some name) :
    c'.names.lookup type = some name := by
  rw [Names.lookup, Option.or_eq_some_iff] at mapped ⊢
  rw [h.protocol_eq]
  exact mapped.imp_right (And.imp_right h.lookupDomain)

/-- The first run may fail for a name that it lacks; whatever else it does, the second one does. -/
theorem within (sound : c.Sound) (sound' : c'.Sound) :
    c.names.Within (fun _ => True) c'.names where
  types := sound.types
  types' := sound'.types
  declared name d found := by
    show c'.types.find? name = some d
    rw [h.types_eq]
    exact found
  require type context := by
    cases mapped : c.names.lookup type with
    | none => rw [Names.require, mapped]; exact .failed trivial _
    | some name => exact .of_eq (by simp only [Names.require, mapped, h.lookup mapped])
  requireDomain type context := by
    cases mapped : c.names.lookupDomain type with
    | none => rw [Names.requireDomain, mapped]; exact .failed trivial _
    | some name => exact .of_eq (by simp only [Names.requireDomain, mapped, h.lookupDomain mapped])

theorem resolve_eq (table : TableKind) (mapping : Mapping) :
    c.names.resolve table mapping = c'.names.resolve table mapping := by
  show c.types.get mapping.type >>= _ = c'.types.get mapping.type >>= _
  rw [h.types_eq]

/-- The entries are the same, and the last one is that of the mapping. -/
theorem domainEntries {domain domain' : List NamedDeclaration}
    (listed : c.names.domainEntries = .ok domain)
    (listed' : c'.names.domainEntries = .ok domain') : ∃ e, domain' = domain ++ [e] ∧
      e.table = .domain ∧ e.mapping = extra ∧ c.types.find? extra.type = some e.declaration := by
  rw [Names.domainEntries, h.mappings] at listed'
  have each : ∀ mapping ∈ c.names.domain.mappings, SameUnless (fun _ => False)
      (c.names.resolve .domain mapping) (c'.names.resolve .domain mapping) :=
    fun mapping _ => .of_eq (h.resolve_eq .domain mapping)
  obtain ⟨e, resolved, rfl⟩ := SameUnless.mapM_concat each listed listed'
  obtain ⟨table, mapping, found⟩ := Names.resolve_eq_ok_iff.mp resolved
  refine ⟨e, rfl, table, mapping, ?_⟩
  rw [← h.types_eq]
  exact found

theorem all (listed : c.names.all = .ok entries) (listed' : c'.names.all = .ok entries') :
    ∃ e, entries' = entries ++ [e] ∧ e.table = .domain ∧ e.mapping = extra ∧
      c.types.find? extra.type = some e.declaration ∧
      ∀ domain, c.names.domainEntries = .ok domain →
        c'.names.domainEntries = .ok (domain ++ [e]) := by
  simp only [Names.all, bind_eq_ok, pure_eq_ok] at listed listed'
  obtain ⟨protocol, hprotocol, domain, hdomain, rfl⟩ := listed
  obtain ⟨protocol', hprotocol', domain', hdomain', rfl⟩ := listed'
  have each : ∀ mapping ∈ c.names.protocol.mappings, SameUnless (fun _ => False)
      (c.names.resolve .protocol mapping) (c'.names.resolve .protocol mapping) :=
    fun mapping _ => .of_eq (h.resolve_eq .protocol mapping)
  rw [h.protocol_eq, (SameUnless.mapM each).eq_ok hprotocol] at hprotocol'
  cases hprotocol'
  obtain ⟨e, rfl, table, mapping, found⟩ := h.domainEntries hdomain hdomain'
  refine ⟨e, (List.append_assoc ..).symm, table, mapping, found, fun other hother => ?_⟩
  rw [hdomain] at hother
  cases hother
  exact hdomain'

end Tables

/-! ## Pass by pass -/

/-- Where fields are read back, the domain table has not changed: a record has a type hint of the
field, and so the class of its type. -/
theorem readsAlike (h : c.GrowsBy extra c') (sound : c.Sound) (passes : c.Passes entries m)
    {e : NamedDeclaration} (he : e ∈ entries) (table : e.table = .domain) {fields : Fields}
    (htype : e.declaration.type = .struct .cAbi fields) {f : Field NativeType}
    (hf : f ∈ Fields.exposed fields) : c.names.ReadsAlike c'.names f := by
  intro r declaration ends nominal last
  obtain ⟨record, -, built⟩ :=
    passes.record_isOk he table (NamedDeclaration.isStruct_iff.mpr ⟨fields, htype⟩)
  obtain ⟨fields', htype', -, each⟩ := Record.build_eq_ok_iff.mp built
  obtain rfl : fields = fields' := by simpa [htype] using htype'
  obtain ⟨recorded, made⟩ := isOk_of_mapM each hf
  simp only [Record.field, bind_eq_ok] at made
  obtain ⟨hint, shown, -⟩ := made
  obtain ⟨context, named⟩ := Names.hint_of_resolvesTo_nominal sound.types ends nominal last
    s!"{e.declaration.name}.{f.name}"
  rw [named, map_eq_ok] at shown
  obtain ⟨name, mapped, -⟩ := shown
  have mapped := Names.requireDomain_eq_ok_iff.mp mapped
  rw [mapped, h.lookupDomain mapped]

section Passes

variable (h : c.GrowsBy extra c') (sound : c.Sound) (sound' : c'.Sound)
  (passes : c.Passes entries m) {e : NamedDeclaration} (passes' : c'.Passes (entries ++ [e]) m')
include h sound sound' passes passes'

theorem definitions : ∃ definition, e.definition? c'.names = .ok definition ∧
    m'.definitions = m.definitions ++ definition.toList := by
  obtain ⟨definitions, ran, same⟩ := passes.definitions
  obtain ⟨definitions', ran', same'⟩ := passes'.definitions
  have each : ∀ d ∈ entries, SameUnless (fun _ => True) (d.definition? c.names)
      (d.definition? c'.names) :=
    fun d hd => (h.within sound sound').definition? (passes.found hd)
  obtain ⟨last, defined, rfl⟩ := SameUnless.mapM_concat each ran ran'
  refine ⟨last, defined, ?_⟩
  rw [same, same', List.filterMap_append]
  cases last <;> rfl

theorem bindings : if e.isStruct then
      ∃ b, e.binding c'.names = .ok b ∧ m'.bindings = m.bindings ++ [b]
    else m'.bindings = m.bindings := by
  have each : ∀ d ∈ entries.filter (·.isStruct), SameUnless (fun _ => True)
      (d.binding c.names) (d.binding c'.names) := fun d hd => by
    have hd := (List.mem_filter.mp hd).1
    exact (h.within sound sound').binding (passes.found hd) fun fields htype table f hf =>
      h.readsAlike sound passes hd table htype hf
  exact SameUnless.mapM_filter_concat each passes.bindings passes'.bindings

theorem records (grown : ∀ domain, c.names.domainEntries = .ok domain →
      c'.names.domainEntries = .ok (domain ++ [e])) : if e.isStruct then
      ∃ r, e.record c'.names = .ok r ∧ m'.records = m.records ++ [r]
    else m'.records = m.records := by
  obtain ⟨domain, hdomain, ran⟩ := passes.records
  obtain ⟨domain', hdomain', ran'⟩ := passes'.records
  rw [grown domain hdomain] at hdomain'
  cases hdomain'
  have each : ∀ d ∈ domain.filter (·.isStruct), SameUnless (fun _ => True)
      (d.record c.names) (d.record c'.names) := fun d hd => by
    have hd := (Names.mem_domainEntries_iff passes.listed hdomain).mp (List.mem_filter.mp hd).1
    exact (h.within sound sound').record (passes.found hd.1)
  exact SameUnless.mapM_filter_concat each ran ran'

theorem entryPoints : m'.entryPoints = m.entryPoints := by
  have names := h.within sound sound'
  have roleName (role : Role) :
      SameUnless (fun _ => True) (c.roleName role) (c'.roleName role) := by
    rw [Composition.roleName, Composition.roleName, h.client_eq]
    exact names.require _ _
  have run : SameUnless (fun _ => True) c.entryPoints c'.entryPoints := by
    rw [Composition.entryPoints, Composition.entryPoints, h.client_eq]
    refine (roleName .status).bind fun status _ => ?_
    refine (roleName .packet).bind fun packet _ => ?_
    exact (roleName .handle).bind fun handle _ => .same _
  exact Except.ok.inj (passes'.entryPoints.symm.trans (run.eq_ok passes.entryPoints))

/-- The mapping of the operation enum is not the new one, so its skip list is the same. -/
theorem operationEnum : c'.operationEnum = c.operationEnum := by
  obtain ⟨name, mapped⟩ := sound.roleMapped .operation
  obtain ⟨d, he, isRole, rfl⟩ := (sound.names.lookup_iff_of_all passes.listed).mp mapped
  have skip : mappedSkip c'.names (c.client.roles.get .operation) =
      mappedSkip c.names (c.client.roles.get .operation) := by
    rw [← isRole, sound.mappedSkip_eq passes he,
      sound'.mappedSkip_eq passes' (List.mem_append_left [e] he)]
  have named : c'.roleName .operation = c.roleName .operation := by
    rw [roleName, roleName, h.client_eq, Names.require_eq_ok_iff.mpr mapped,
      Names.require_eq_ok_iff.mpr (h.lookup mapped)]
  rw [Composition.operationEnum, Composition.operationEnum, named, h.types_eq, h.client_eq]
  show _ >>= _ = _ >>= _
  simp only [Roles.get] at skip
  rw [skip]

theorem methods : m'.operationEnum = m.operationEnum ∧ m'.methods = m.methods := by
  obtain ⟨operations, enum, named, ran⟩ := passes.methods
  obtain ⟨operations', enum', named', ran'⟩ := passes'.methods
  rw [h.operationEnum sound sound' passes passes', enum] at enum'
  cases enum'
  have run : SameUnless (fun _ => True) (MethodSignature.buildAll c.names operations c.operations)
      (MethodSignature.buildAll c'.names operations c.operations) := .mapM fun o ho => by
    obtain ⟨event, result⟩ := sound.wellFormed o (List.mem_filter.mp ho).1
    exact (h.within sound sound').signature event result operations
  rw [h.operations_eq, run.eq_ok ran] at ran'
  exact ⟨named'.trans named.symm, (Except.ok.inj ran').symm⟩

end Passes

/-- If both modules are generated, the second one is the first one with what the mapping becomes at
the end of its pass. -/
theorem append (h : c.GrowsBy extra c') (sound : c.Sound) (sound' : c'.Sound)
    {options : GeneratorOptions} (generated : (c.generate options).runLog.1 = .ok m)
    (generated' : (c'.generate options).runLog.1 = .ok m') :
    ∃ (e : NamedDeclaration) (definitions : List Definition) (records : List Record)
      (bindings : List StructBinding), e.table = .domain ∧ e.mapping = extra ∧
      c.types.find? extra.type = some e.declaration ∧
      e.Becomes c'.names definitions records bindings ∧
      m' = m.append definitions records bindings := by
  obtain ⟨entries, passes⟩ := passes_of_generate generated
  obtain ⟨entries', passes'⟩ := passes_of_generate generated'
  obtain ⟨e, rfl, table, mapping, found, grown⟩ := h.all passes.listed passes'.listed
  have preamble : m'.preamble = m.preamble := by
    rw [preamble_of_generate generated, preamble_of_generate generated', h.client_eq]
  have entryPoints := h.entryPoints sound sound' passes passes'
  obtain ⟨operationEnum, methods⟩ := h.methods sound sound' passes passes'
  have module (definitions : List Definition) (records : List Record)
      (bindings : List StructBinding) (defined : m'.definitions = m.definitions ++ definitions)
      (recorded : m'.records = m.records ++ records)
      (bound : m'.bindings = m.bindings ++ bindings) :
      m' = m.append definitions records bindings := by
    cases m'
    simp_all [BindingModule.append]
  obtain ⟨definition, built, defined⟩ := h.definitions sound sound' passes passes'
  have recorded := h.records sound sound' passes passes' grown
  have bound := h.bindings sound sound' passes passes'
  have named := NamedDeclaration.definition?_eq_ok built
  cases struct : e.isStruct with
  | true =>
    simp only [struct, ↓reduceIte] at named recorded bound
    obtain ⟨r, hr, recorded⟩ := recorded
    obtain ⟨b, hb, bound⟩ := bound
    obtain rfl := Option.map_eq_none_iff.mp named
    exact ⟨e, [], [r], [b], table, mapping, found, .struct struct hr hb,
      module [] [r] [b] defined recorded bound⟩
  | false =>
    simp only [struct, Bool.false_eq_true, ↓reduceIte] at named recorded bound
    obtain ⟨d, rfl, -⟩ := Option.map_eq_some_iff.mp named
    exact ⟨e, [d], [], [], table, mapping, found, .definition struct built,
      module [d] [] [] defined (by simpa using recorded) (by simpa using bound)⟩

end GrowsBy

/-! ## A mapping that is added -/

/-- Adding a mapping never changes what is generated for the others. If the text is generated
before and after, with the same options, then the blocks of the first are in the second as they are
and in their order, and the second has nothing more than what the mapping becomes: one definition at
the end of the definitions, or a record at the end of the records and a binding at the end of the
bindings. -/
theorem added_mapping_appends {protocol domain protocol' domain' : Document}
    (composed : compose protocol domain = .ok c) (composed' : compose protocol' domain' = .ok c')
    (h : c.GrowsBy extra c') {options : Option Value} {text text' : String}
    (generated : (c.generateText options).runLog.1 = .ok text)
    (generated' : (c'.generateText options).runLog.1 = .ok text') :
    ∃ (resolved : GeneratorOptions) (m : BindingModule) (e : NamedDeclaration)
      (definitions : List Definition) (records : List Record) (bindings : List StructBinding),
      GeneratorOptions.resolve options = .ok resolved ∧
      (c.generate resolved).runLog.1 = .ok m ∧
      (c'.generate resolved).runLog.1 = .ok (m.append definitions records bindings) ∧
      e.table = .domain ∧ e.mapping = extra ∧
      c.types.find? extra.type = some e.declaration ∧
      e.Becomes c'.names definitions records bindings ∧
      text = Text.ofLines m.body.flatten ++ m.ending ∧
      text' = Text.ofLines (m.append definitions records bindings).body.flatten ++ m.ending := by
  simp only [runLog_generateText_bind, bind_eq_ok, map_eq_ok] at generated generated'
  obtain ⟨resolved, valid, m, first, rfl⟩ := generated
  obtain ⟨resolved', valid', m', second, rfl⟩ := generated'
  obtain rfl : resolved = resolved' := Except.ok.inj (valid.symm.trans valid')
  rw [← runLog_generate] at first second
  obtain ⟨e, definitions, records, bindings, table, mapping, found, becomes, rfl⟩ :=
    h.append (sound_of_compose composed) (sound_of_compose composed') first second
  exact ⟨resolved, m, e, definitions, records, bindings, valid, first, second, table, mapping,
    found, becomes, m.text_eq_body, (m.append definitions records bindings).text_eq_body⟩

/-- An enum and two structs that hold it, the second of them without a name. -/
def palette : Document :=
  .ofDeclarations
    [⟨"color_t", .enum 8 [⟨"red", 0⟩, ⟨"blue", 1⟩]⟩,
      ⟨"pixel_t", .struct .cAbi [⟨"color", .ref "color_t", false⟩]⟩,
      ⟨"line_t", .struct .cAbi [⟨"color", .ref "color_t", false⟩,
        ⟨"start", .pointer (.ref "pixel_t") false, true⟩]⟩]
    [("color_t", "Color"), ("pixel_t", "Pixel")]

/-- The same with a name for the second struct. -/
def paletteWithLine : Document :=
  { palette with mappings := palette.mappings ++ [⟨"line_t", "Line", none⟩] }

theorem added_mapping_appends_line : ∃ (c c' : Composition) (text text' : String),
    compose .bareProtocol palette = .ok c ∧ compose .bareProtocol paletteWithLine = .ok c' ∧
      c.GrowsBy ⟨"line_t", "Line", none⟩ c' ∧
      (c.generateText none).runLog.1 = .ok text ∧ (c'.generateText none).runLog.1 = .ok text' ∧
      ∃ (m : BindingModule) (e : NamedDeclaration) (r : Record) (b : StructBinding),
        e.mapping.name = "Line" ∧ e.record c'.names = .ok r ∧ e.binding c'.names = .ok b ∧
        text = Text.ofLines m.body.flatten ++ m.ending ∧
        text' = Text.ofLines (m.append [] [r] [b]).body.flatten ++ m.ending := by
  refine ⟨_, _, _, _, rfl, rfl, ⟨rfl, rfl⟩, rfl, rfl, ?_⟩
  obtain ⟨-, m, e, definitions, records, bindings, -, -, -, -, mapping, found, becomes, before,
    after⟩ := @added_mapping_appends _ _ ⟨"line_t", "Line", none⟩ .bareProtocol palette
      .bareProtocol paletteWithLine rfl rfl ⟨rfl, rfl⟩ none _ _ rfl rfl
  have struct : e.isStruct = true := by
    obtain ⟨table, mapping, declaration⟩ := e
    cases found
    rfl
  cases becomes with
  | definition other => rw [struct] at other; cases other
  | struct _ recorded bound =>
    exact ⟨m, e, _, _, congrArg (·.name) mapping, recorded, bound, before, after⟩

end Composition
end NativeBindings
