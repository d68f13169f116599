import NativeBindings.Proofs.Assembly
import NativeBindings.Proofs.Composed

/-!
# What is emitted for an entry

An entry of the name tables becomes an enum class or an alias (`NamedDeclaration.enumClass_isOk`,
`NamedDeclaration.definition?_eq_alias_iff`), or, as a struct of the platform's layout, a binding
(`StructBinding.BuiltFrom`) and in the domain table also a record. A generated module holds what
its entries become and nothing else (`Composition.Passes.mem_definitions_iff`, `mem_records_iff`,
`mem_bindings_iff`).
-/
namespace NativeBindings

variable {names : Names} {d : Declaration} {e : NamedDeclaration}

/-! ## Definitions -/

/-- An entry becomes an alias exactly if its type is neither an enum nor a struct, and then the
alias is of the type's representation. -/
theorem NamedDeclaration.definition?_eq_alias_iff {name : String} {ctype : Ctype} :
    e.definition? names = .ok (some (.alias name ctype)) ↔
      e.declaration.type.isNominal = false ∧ e.mapping.name = name ∧
        names.ctype e.declaration.type e.declaration.name = .ok ctype := by
  cases nominal : e.declaration.type.isNominal with
  | false => simp [definition?_of_structural names nominal, and_comm]
  | true =>
    unfold definition?
    cases htype : e.declaration.type with
    | enum tagBits variants => simp
    | struct layout fields => cases layout <;> simp
    | _ => simp [htype, NativeType.isNominal] at nominal

/-- The types that become enum classes. -/
def NativeType.isEnumLike : NativeType → Bool
  | .enum _ _ => true
  | .struct .packed _ => true
  | _ => false

theorem NamedDeclaration.definition?_of_enumLike (names : Names)
    (h : e.declaration.type.isEnumLike = true) :
    e.definition? names = (some ∘ .enumClass) <$> e.enumClass := by
  unfold definition?
  cases htype : e.declaration.type with
  | enum tagBits variants => rfl
  | struct layout fields => cases layout <;> simp_all [NativeType.isEnumLike]
  | _ => simp [htype, NativeType.isEnumLike] at h

/-- Once the first pass is over, an enum or a packed struct has its class. -/
theorem NamedDeclaration.enumClass_isOk {entries : List NamedDeclaration}
    {definitions : List (Option Definition)}
    (pass : entries.mapM (·.definition? names) = .ok definitions) (he : e ∈ entries)
    (h : e.declaration.type.isEnumLike = true) :
    ∃ class', e.enumClass = .ok class' ∧ some (.enumClass class') ∈ definitions := by
  obtain ⟨definition, emitted⟩ := isOk_of_mapM pass he
  have listed := (mem_iff_of_mapM pass).mpr ⟨e, he, emitted⟩
  rw [definition?_of_enumLike names h, map_eq_ok] at emitted
  obtain ⟨class', built, rfl⟩ := emitted
  exact ⟨class', built, listed⟩

namespace EnumClass

variable {name : String} {skip : List String} {class' : EnumClass}

/-- The class of an enum has the members of the variants that are not skipped. -/
theorem build_of_enum {tagBits : Int} {variants : List Variant}
    (h : d.type = .enum tagBits variants) (built : build d name skip = .ok class') :
    class' = ⟨name, .integers, (variants.filter (·.name ∉ skip)).map ofVariant⟩ := by
  unfold build at built
  rw [h] at built
  obtain ⟨-, -, same⟩ := bind_eq_ok.mp built
  exact (pure_eq_ok.mp same).symm

/-- The class of a packed struct begins with the member for no flags. -/
theorem build_of_packed {fields : Fields} (h : d.type = .struct .packed fields)
    (built : build d name skip = .ok class') :
    class'.name = name ∧ class'.base = .flags ∧ class'.members.head? = some noFlags := by
  unfold build at built
  rw [h] at built
  obtain ⟨-, -, same⟩ := bind_eq_ok.mp built
  obtain rfl := pure_eq_ok.mp same
  exact ⟨rfl, rfl, rfl⟩

theorem name_of_build (built : build d name skip = .ok class') : class'.name = name := by
  cases htype : d.type with
  | enum tagBits variants => rw [build_of_enum htype built]
  | struct layout fields =>
    cases layout with
    | packed => exact (build_of_packed htype built).1
    | _ => simp [build, htype] at built
  | _ => simp [build, htype] at built

end EnumClass

/-- A struct of the platform's layout defines nothing in the first pass, and any other type that
passes has one definition, under its generated name. -/
theorem NamedDeclaration.definition?_eq_ok {definition : Option Definition}
    (h : e.definition? names = .ok definition) :
    definition.map (·.name) = if e.isStruct then none else some e.mapping.name := by
  have ofClass (h : (some ∘ .enumClass) <$> e.enumClass = .ok definition) :
      definition.map (·.name) = some e.mapping.name := by
    obtain ⟨class', built, rfl⟩ := map_eq_ok.mp h
    exact congrArg some (EnumClass.name_of_build built)
  unfold definition? at h
  cases htype : e.declaration.type with
  | struct layout fields =>
    cases layout with
    | cAbi => simp_all [isStruct]
    | packed => simpa [isStruct, htype] using ofClass (by simpa [htype] using h)
    | auto => simp [htype] at h
  | enum tagBits variants => simpa [isStruct, htype] using ofClass (by simpa [htype] using h)
  | _ =>
    simp only [htype, map_eq_ok] at h
    obtain ⟨ctype, -, rfl⟩ := h
    simp [isStruct, htype, Definition.name]

/-! ## Records and bindings -/

/-- A record has the record fields of the exposed fields of a struct. -/
theorem Record.build_eq_ok_iff {name : String} {r : Record} :
    build names d name = .ok r ↔ ∃ fields, d.type = .struct .cAbi fields ∧ r.name = name ∧
      (Fields.exposed fields).mapM (field names d.name) = .ok r.fields := by
  unfold build
  split
  · rename_i fields struct
    simp only [bind_eq_ok, pure_eq_ok, struct, NativeType.struct.injEq, true_and, exists_eq_left']
    constructor
    · rintro ⟨_, hfields, rfl⟩
      exact ⟨rfl, hfields⟩
    · rintro ⟨rfl, hfields⟩
      exact ⟨_, hfields, rfl⟩
  · rename_i other
    simp only [reduceCtorEq, false_iff]
    rintro ⟨fields, struct, -⟩
    exact other fields struct

namespace StructBinding

/-- What a binding is built of: its parts are those of the fields of a struct. -/
structure BuiltFrom (names : Names) (d : Declaration) (name : String) (withRecord : Bool)
    (fields : Fields) (b : StructBinding) : Prop where
  struct : d.type = .struct .cAbi fields
  named : b.name = name
  inward : ∃ inward, (Fields.exposed fields).mapM (checkAndStore names d.name) = .ok inward ∧
    b.checks = inward.filterMap (·.1) ∧ b.stored = inward.map (·.2)
  restored : if withRecord then
      ∃ restored, (Fields.exposed fields).mapM (restore names) = .ok restored ∧
        b.restored = some restored
    else b.restored = none
  layout : fields.mapM (layoutField names d.name) = .ok b.layout

theorem builtFrom_of_build {name : String} {withRecord : Bool} {b : StructBinding}
    (h : build names d name withRecord = .ok b) :
    ∃ fields, BuiltFrom names d name withRecord fields b := by
  cases struct : NamedDeclaration.isStruct ⟨.domain, ⟨"", name, none⟩, d⟩ with
  | false =>
    unfold build at h
    split at h
    · rename_i fields htype
      simp [NamedDeclaration.isStruct, htype] at struct
    · cases h
  | true =>
    obtain ⟨fields, htype⟩ := NamedDeclaration.isStruct_iff.mp struct
    rw [build_of_struct _ _ htype] at h
    simp only [bind_eq_ok, pure_eq_ok] at h
    obtain ⟨inward, hinward, restored, hrestored, layout, hlayout, rfl⟩ := h
    refine ⟨fields, htype, rfl, ⟨inward, hinward, rfl, rfl⟩, ?_, hlayout⟩
    cases withRecord with
    | false => exact (pure_eq_ok.mp hrestored).symm
    | true =>
      obtain ⟨restored, each, rfl⟩ := map_eq_ok.mp hrestored
      exact ⟨restored, each, rfl⟩

theorem BuiltFrom.of_struct {name : String} {withRecord : Bool} {b : StructBinding}
    {fields : Fields} (struct : d.type = .struct .cAbi fields)
    (h : build names d name withRecord = .ok b) :
    BuiltFrom names d name withRecord fields b := by
  obtain ⟨fields', built⟩ := builtFrom_of_build h
  obtain rfl : fields = fields' := by simpa [struct] using built.struct
  exact built

theorem layoutField_eq_ok_iff {owner name : String} {f : Field NativeType}
    {ctype : Ctype} : layoutField names owner f = .ok (name, ctype) ↔
      f.name = name ∧ names.ctype f.type s!"{owner}.{f.name}" = .ok ctype := by
  simp only [layoutField, bind_eq_ok, pure_eq_ok, Prod.mk.injEq]
  constructor
  · rintro ⟨ctype, lowered, rfl, rfl⟩
    exact ⟨rfl, lowered⟩
  · rintro ⟨rfl, lowered⟩
    exact ⟨ctype, lowered, rfl, rfl⟩

end StructBinding

/-- The binding of an entry has its name, and the representations of all its fields. -/
theorem NamedDeclaration.binding_eq_ok {b : StructBinding} (h : e.binding names = .ok b) :
    ∃ fields, e.declaration.type = .struct .cAbi fields ∧ b.name = e.mapping.name ∧
      fields.mapM (StructBinding.layoutField names e.declaration.name) = .ok b.layout := by
  obtain ⟨fields, built⟩ := StructBinding.builtFrom_of_build h
  exact ⟨fields, built.struct, built.named, built.layout⟩

/-! ## Entries of the domain table -/

namespace Names

variable {entries domain : List NamedDeclaration}

theorem mem_domainEntries_iff (listed : names.all = .ok entries)
    (hdomain : names.domainEntries = .ok domain) :
    e ∈ domain ↔ e ∈ entries ∧ e.table = .domain := by
  obtain ⟨protocol, domain', rfl, hdomain', first, last, -⟩ := all_eq_ok listed
  obtain rfl : domain = domain' := Except.ok.inj (hdomain.symm.trans hdomain')
  rw [List.mem_append]
  constructor
  · intro he
    exact ⟨.inr he, last e he⟩
  · rintro ⟨he | he, table⟩
    · rw [first e he] at table
      cases table
    · exact he

/-- The entries of the domain table are those of all that are in it. -/
theorem domainEntries_eq_filter (listed : names.all = .ok entries)
    (hdomain : names.domainEntries = .ok domain) :
    domain = entries.filter (·.table == .domain) := by
  obtain ⟨protocol, domain', rfl, hdomain', first, last, -⟩ := all_eq_ok listed
  obtain rfl : domain = domain' := Except.ok.inj (hdomain.symm.trans hdomain')
  have none : protocol.filter (·.table == .domain) = [] :=
    List.filter_eq_nil_iff.mpr fun e he => by rw [first e he]; decide
  have every : domain.filter (·.table == .domain) = domain :=
    List.filter_eq_self.mpr fun e he => by rw [last e he]; decide
  rw [List.filter_append, none, every, List.nil_append]

/-- A generated name of the domain table is that of an entry. -/
theorem exists_domain_entry (listed : names.all = .ok entries) {type name : String}
    (mapped : names.lookupDomain type = some name) :
    ∃ e ∈ entries, e.table = .domain ∧ e.mapping.type = type ∧ e.mapping.name = name := by
  obtain ⟨m, hm, rfl, rfl⟩ := NameTable.lookup_eq_some_iff.mp mapped
  obtain ⟨-, domain, -, hdomain, -⟩ := all_eq_ok listed
  obtain ⟨same, -⟩ := mapM_resolve_eq_ok hdomain
  rw [← same] at hm
  obtain ⟨e, he, rfl⟩ := List.mem_map.mp hm
  obtain ⟨he, table⟩ := (mem_domainEntries_iff listed hdomain).mp he
  exact ⟨e, he, table, rfl, rfl⟩

/-- What the domain table names is named so in both tables together. -/
theorem Sound.lookup_of_lookupDomain (sound : names.Sound) {type name : String}
    (mapped : names.lookupDomain type = some name) : names.lookup type = some name :=
  (sound.lookupDomain_eq_some_iff.mp mapped).1

@[simp]
theorem requireDomain_eq_ok_iff {type context name : String} :
    names.requireDomain type context = .ok name ↔ names.lookupDomain type = some name := by
  unfold requireDomain
  split <;> simp_all

end Names

/-! ## What a module holds -/

namespace Composition.Passes

variable {c : Composition} {entries : List NamedDeclaration} {m : BindingModule}
  (passes : c.Passes entries m)
include passes

theorem found (he : e ∈ entries) : c.types.find? e.mapping.type = some e.declaration := by
  obtain ⟨-, -, -, -, -, -, -, found⟩ := Names.all_eq_ok passes.listed
  exact found e he

theorem lookup_of_mem (sound : c.Sound) (he : e ∈ entries) :
    c.names.lookup e.mapping.type = some e.mapping.name :=
  (sound.names.lookup_iff_of_all passes.listed).mpr ⟨e, he, rfl, rfl⟩

theorem mem_definitions_iff {definition : Definition} :
    definition ∈ m.definitions ↔ ∃ e ∈ entries, e.definition? c.names = .ok (some definition) := by
  obtain ⟨definitions, all, same⟩ := passes.definitions
  simp [same, ← mem_iff_of_mapM all]

/-- An alias is of the representation of its type. -/
theorem alias_isOk (he : e ∈ entries) (structural : e.declaration.type.isNominal = false) :
    ∃ ctype, c.names.ctype e.declaration.type e.declaration.name = .ok ctype ∧
      Definition.alias e.mapping.name ctype ∈ m.definitions := by
  obtain ⟨definitions, all, -⟩ := passes.definitions
  obtain ⟨d, hd⟩ := isOk_of_mapM all he
  rw [NamedDeclaration.definition?_of_structural c.names structural, map_eq_ok] at hd
  obtain ⟨ctype, lowered, -⟩ := hd
  exact ⟨ctype, lowered, passes.mem_definitions_iff.mpr
    ⟨e, he, NamedDeclaration.definition?_eq_alias_iff.mpr ⟨structural, rfl, lowered⟩⟩⟩

theorem enumClass_isOk (he : e ∈ entries) (h : e.declaration.type.isEnumLike = true) :
    ∃ class', e.enumClass = .ok class' ∧ Definition.enumClass class' ∈ m.definitions := by
  obtain ⟨definitions, all, same⟩ := passes.definitions
  obtain ⟨class', built, listed⟩ := NamedDeclaration.enumClass_isOk all he h
  exact ⟨class', built, by simpa [same] using listed⟩

theorem mem_records_iff {r : Record} : r ∈ m.records ↔
    ∃ e ∈ entries, e.table = .domain ∧ e.isStruct = true ∧ e.record c.names = .ok r := by
  obtain ⟨domain, hdomain, all⟩ := passes.records
  simp [mem_iff_of_mapM all, Names.mem_domainEntries_iff passes.listed hdomain, and_assoc]

theorem record_isOk (he : e ∈ entries) (table : e.table = .domain) (struct : e.isStruct = true) :
    ∃ r ∈ m.records, e.record c.names = .ok r := by
  obtain ⟨domain, hdomain, all⟩ := passes.records
  have he' := (Names.mem_domainEntries_iff passes.listed hdomain).mpr ⟨he, table⟩
  obtain ⟨r, built⟩ := isOk_of_mapM all (List.mem_filter.mpr ⟨he', struct⟩)
  exact ⟨r, passes.mem_records_iff.mpr ⟨e, he, table, struct, built⟩, built⟩

theorem mem_bindings_iff {b : StructBinding} :
    b ∈ m.bindings ↔ ∃ e ∈ entries, e.isStruct = true ∧ e.binding c.names = .ok b := by
  simp [mem_iff_of_mapM passes.bindings, and_assoc]

theorem binding_isOk (he : e ∈ entries) (struct : e.isStruct = true) :
    ∃ b, e.binding c.names = .ok b :=
  isOk_of_mapM passes.bindings (List.mem_filter.mpr ⟨he, struct⟩)

end Composition.Passes
end NativeBindings
