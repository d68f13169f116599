import NativeBindings.Proofs.Entries
import NativeBindings.Proofs.PointerTargets
import NativeBindings.Proofs.Statements

/-!
# Structure classes and the pointers to them

An alias and the fields of a binding evaluate their representations when the module is imported,
and a representation may mention a structure class. Two questions about every such mention, each
with its exact answer in terms of the documents:

* `classes_precede_mentions_iff`: is the class of a mapped struct defined by a statement before?
  Aliases come before all classes and bindings come in the order of the mapping tables, so this
  asks that no mapped alias points to a struct, and that the fields of a mapped struct point to it
  or to structs mapped before it.
* `mentioned_classes_defined_iff`: is the class defined at all? Any mapped name makes a
  representation, but only a struct of the platform's layout gets a class, so this asks that
  whatever is pointed to is such a struct.

Neither holds of every composition: two structs that point to each other have no order that is
right for both (`fields_mention_class_too_early`), and a pointer to an enum is to a class that is
nowhere (`pointer_to_enum_mentions_no_class`).
-/
namespace NativeBindings

/-! ## What entries point to -/

namespace NamedDeclaration

variable {e : NamedDeclaration}

/-- The entry is an alias, and its type points to the declaration of a name. -/
def AliasPointsTo (e : NamedDeclaration) (types : Registry) (target : String) : Prop :=
  e.declaration.type.isNominal = false ∧ types.PointsTo e.declaration.type target

/-- The entry is a struct of the platform's layout, and a field of it points to the declaration of a
name. -/
def FieldPointsTo (e : NamedDeclaration) (types : Registry) (target : String) : Prop :=
  ∃ fields, e.declaration.type = .struct .cAbi fields ∧
    ∃ f ∈ fields, types.PointsTo f.type target

theorem FieldPointsTo.isStruct {types : Registry} {target : String}
    (h : e.FieldPointsTo types target) : e.isStruct = true := by
  obtain ⟨fields, htype, -⟩ := h
  exact isStruct_iff.mpr ⟨fields, htype⟩

end NamedDeclaration

/-- The statement evaluates a representation that mentions the structure class of a mapped name. -/
def Statement.Mentions (s : Statement) (name : String) : Prop :=
  ∃ ctype ∈ s.evaluates, ctype.target? = some name

theorem StructBinding.mentions_iff {names : Names} {e : NamedDeclaration} {b : StructBinding}
    (h : e.binding names = .ok b) {name : String} :
    (Statement.structureFields b).Mentions name ↔
      ∃ target, e.FieldPointsTo names.types target ∧ names.lookup target = some name := by
  obtain ⟨fields, htype, -, hlayout⟩ := NamedDeclaration.binding_eq_ok h
  constructor
  · rintro ⟨_, hctype, mention⟩
    obtain ⟨⟨_, ctype⟩, hfield, rfl⟩ := List.mem_map.mp hctype
    obtain ⟨f, hf, lowered⟩ := (mem_iff_of_mapM hlayout).mp hfield
    obtain ⟨target, points, mapped⟩ :=
      (Names.represents_of_ctype (layoutField_eq_ok_iff.mp lowered).2).back name mention
    exact ⟨target, ⟨fields, htype, f, hf, points⟩, mapped⟩
  · rintro ⟨target, ⟨fields', htype', f, hf, points⟩, mapped⟩
    obtain rfl : fields = fields' := by simpa [htype] using htype'
    obtain ⟨⟨field, ctype⟩, lowered⟩ := isOk_of_mapM hlayout hf
    obtain ⟨name', mapped', mention⟩ :=
      (Names.represents_of_ctype (layoutField_eq_ok_iff.mp lowered).2).forth target points
    obtain rfl : name' = name := by simpa [mapped'] using mapped
    exact ⟨ctype, List.mem_map_of_mem ((mem_iff_of_mapM hlayout).mpr ⟨f, hf, lowered⟩), mention⟩

/-! ## Mentions in a module -/

namespace BindingModule

/-- Every mention of the structure class of one of the names comes after the class. -/
def ClassesPrecede (m : BindingModule) (names : String → Prop) : Prop :=
  Throughout (fun before s => ∀ name, s.Mentions name → names name →
    ∃ s' ∈ before, name ∈ s'.defines) m.statements

/-- Every structure class that is mentioned is defined. -/
def ClassesDefined (m : BindingModule) : Prop :=
  ∀ s ∈ m.statements, ∀ name, s.Mentions name → ∃ s' ∈ m.statements, name ∈ s'.defines

/-- What statements define and mention is what the text of the module says. The text consists of
their lines in their order, a class that is defined has the line that begins it, a class that is
mentioned stands in a pointer to it, and where none is mentioned no pointer is written. -/
structure ClassesWritten (m : BindingModule) : Prop where
  text : m.text = Text.trimEnd (Text.ofLines (m.statements.flatMap (·.lines))) ++ "\n"
  defined : ∀ s ∈ m.statements, ∀ name ∈ s.defines,
    s!"class C{name}(ctypes.Structure):" ∈ s.lines
  mentioned : ∀ s ∈ m.statements, ∀ name, s.Mentions name →
    ∃ line ∈ s.lines, ∃ before after, line = before ++ s!"ctypes.POINTER(C{name})" ++ after
  unmentioned : ∀ s ∈ m.statements, ∀ type ∈ s.evaluates, type.target? = none →
    ∃ start ∈ ["None", "ctypes.c_", "c_uint128"], ∃ rest, type.text = start ++ rest

theorem classesWritten (m : BindingModule) : m.ClassesWritten where
  text := m.text_eq_statements
  defined s _ name defined := by
    have line := Statement.lines_of_defines defined
    simp only [Naming.structureClass, toString, ← String.append_assoc] at line
    exact line
  mentioned s _ name mentions := by
    obtain ⟨type, evaluated, target⟩ := mentions
    obtain ⟨line, hline, before, after, same⟩ := Statement.lines_of_evaluates evaluated
    obtain ⟨lengths, text⟩ := Ctype.text_of_target target
    refine ⟨line, hline, before, lengths ++ after, ?_⟩
    rw [same, text]
    simp [Naming.structureClass, toString, String.append_assoc, Ctype.pointer_class_append]
  unmentioned _ _ _ _ := Ctype.text_of_no_target

variable {m : BindingModule} {s : Statement} {name : String}

theorem defines_of_mem_head (h : s ∈ m.head) : s.defines = [] := by
  simp only [head, List.mem_cons, List.mem_append, List.mem_map] at h
  rcases h with rfl | ⟨d, -, rfl⟩ | ⟨r, -, rfl⟩ <;> rfl

theorem not_exists_defines_of_subset_head {before : List Statement} (within : before ⊆ m.head)
    (name : String) : ¬ ∃ s ∈ before, name ∈ s.defines := by
  rintro ⟨s, hs, defined⟩
  simp [defines_of_mem_head (within hs)] at defined

theorem not_mentions_of_mem_tail (h : s ∈ m.tail) : ¬ s.Mentions name := by
  rintro ⟨ctype, evaluated, -⟩
  simp only [tail, List.mem_cons, List.mem_map] at h
  rcases h with rfl | ⟨convention, -, rfl⟩ <;> cases evaluated

theorem not_mentions_structureClass (b : StructBinding) :
    ¬ (Statement.structureClass b).Mentions name := by
  rintro ⟨ctype, evaluated, -⟩
  cases evaluated

theorem exists_defines_iff {bindings : List StructBinding} :
    (∃ s ∈ bindings.flatMap (·.statements), name ∈ s.defines) ↔ ∃ b ∈ bindings, b.name = name := by
  constructor
  · rintro ⟨s, hs, defined⟩
    obtain ⟨b, hb, hs⟩ := List.mem_flatMap.mp hs
    rcases List.mem_pair.mp hs with rfl | rfl
    · exact ⟨b, hb, (List.mem_singleton.mp defined).symm⟩
    · cases defined
  · rintro ⟨b, hb, rfl⟩
    exact ⟨.structureClass b, List.mem_flatMap.mpr ⟨b, hb, List.mem_pair.mpr (.inl rfl)⟩,
      List.mem_singleton_self _⟩

theorem throughout_statements {P : List Statement → Statement → Prop}
    {bindings : List StructBinding} :
    Throughout P (bindings.flatMap (·.statements)) ↔
      Throughout (fun before b => P (before.flatMap (·.statements)) (.structureClass b) ∧
        P (before.flatMap (·.statements) ++ [.structureClass b]) (.structureFields b))
        bindings := by
  induction bindings generalizing P with
  | nil => simp
  | cons b rest ih =>
    have both : ∀ later, b.statements ++ later = .structureClass b :: .structureFields b :: later :=
      fun later => rfl
    simp only [List.flatMap_cons, both, throughout_cons, ih, List.flatMap_nil, List.nil_append,
      List.cons_append, and_assoc]

/-- Aliases come before all classes, and the fields of a binding after the classes of the bindings
up to it. -/
theorem classesPrecede_iff {names : String → Prop} : m.ClassesPrecede names ↔
    (∀ s ∈ m.head, ∀ name, s.Mentions name → ¬ names name) ∧
      Throughout (fun before b => ∀ name, (Statement.structureFields b).Mentions name →
        names name → ∃ b' ∈ before ++ [b], b'.name = name) m.bindings := by
  -- The tail mentions no class and the head defines none, which leaves the bindings.
  have last : Throughout (fun before s => ∀ name, s.Mentions name → names name →
      ∃ s' ∈ m.head ++ m.bindings.flatMap (·.statements) ++ before, name ∈ s'.defines) m.tail := by
    intro before s after split name mention
    have hs : s ∈ m.tail := by simp [split]
    exact absurd mention (not_mentions_of_mem_tail hs)
  rw [ClassesPrecede, statements, throughout_append, throughout_append, throughout_statements,
    ← throughout_const, and_iff_left last]
  refine and_congr (throughout_congr fun before s after split => ?_)
    (throughout_congr fun before b after split => ?_)
  · have within : before ⊆ m.head := by simp [split]
    simp only [not_exists_defines_of_subset_head within, imp_false]
  · have passed : ∀ name, (∃ s' ∈ m.head ++ (before.flatMap (·.statements) ++
          [.structureClass b]), name ∈ s'.defines) ↔ ∃ b' ∈ before ++ [b], b'.name = name := by
      intro name
      have skip := not_exists_defines_of_subset_head (List.Subset.refl m.head) name
      simp only [List.mem_append, or_and_right, exists_or, skip, exists_defines_iff, false_or]
      simp [Statement.defines, eq_comm]
    simp only [passed, not_mentions_structureClass, false_imp_iff, implies_true, true_and]

theorem exists_defines_statements_iff :
    (∃ s ∈ m.statements, name ∈ s.defines) ↔ ∃ b ∈ m.bindings, b.name = name := by
  have first := not_exists_defines_of_subset_head (List.Subset.refl m.head) name
  have last : ¬ ∃ s ∈ m.tail, name ∈ s.defines := by
    rintro ⟨s, hs, defined⟩
    simp only [tail, List.mem_cons, List.mem_map] at hs
    rcases hs with rfl | ⟨convention, -, rfl⟩ <;> cases defined
  simp only [statements, List.mem_append, or_and_right, exists_or, first, last,
    exists_defines_iff, false_or, or_false]

theorem exists_mentions_statements_iff :
    (∃ s ∈ m.statements, s.Mentions name) ↔ (∃ s ∈ m.head, s.Mentions name) ∨
      ∃ b ∈ m.bindings, (Statement.structureFields b).Mentions name := by
  have last : ¬ ∃ s ∈ m.tail, s.Mentions name :=
    fun ⟨s, hs, mention⟩ => not_mentions_of_mem_tail hs mention
  have bound : (∃ s ∈ m.bindings.flatMap (·.statements), s.Mentions name) ↔
      ∃ b ∈ m.bindings, (Statement.structureFields b).Mentions name := by
    constructor
    · rintro ⟨s, hs, mention⟩
      obtain ⟨b, hb, hs⟩ := List.mem_flatMap.mp hs
      rcases List.mem_pair.mp hs with rfl | rfl
      · exact absurd mention (not_mentions_structureClass b)
      · exact ⟨b, hb, mention⟩
    · rintro ⟨b, hb, mention⟩
      exact ⟨_, List.mem_flatMap.mpr ⟨b, hb, List.mem_pair.mpr (.inr rfl)⟩, mention⟩
  simp only [statements, List.mem_append, or_and_right, exists_or, bound, last, or_false]

end BindingModule

/-! ## Mentions and entries -/

namespace Composition

/-- The mapped name of a struct of the platform's layout. -/
def StructName (c : Composition) (name : String) : Prop :=
  ∃ type, c.types.IsStruct type ∧ c.names.lookup type = some name

/-- The structs that fields of an entry point to are those of entries before it, or its own. -/
def PointsUpTo (c : Composition) (before : List NamedDeclaration) (e : NamedDeclaration) : Prop :=
  ∀ target, e.FieldPointsTo c.types target → c.types.IsStruct target →
    ∃ e' ∈ before ++ [e], e'.mapping.type = target

/-- No alias points to a struct, and what a struct points to is mapped no later than itself. -/
structure PointsBack (c : Composition) (entries : List NamedDeclaration) : Prop where
  aliases : ∀ e ∈ entries, ∀ target, e.AliasPointsTo c.types target → ¬ c.types.IsStruct target
  fields : Throughout c.PointsUpTo entries

/-- Whatever an alias or a field points to is a struct of the platform's layout. -/
def PointsToStructs (c : Composition) (entries : List NamedDeclaration) : Prop :=
  ∀ e ∈ entries, ∀ target, e.AliasPointsTo c.types target ∨ e.FieldPointsTo c.types target →
    c.types.IsStruct target

variable {c : Composition} {entries : List NamedDeclaration} {m : BindingModule} {name : String}

theorem Sound.structName_iff (sound : c.Sound) {type : String}
    (mapped : c.names.lookup type = some name) : c.StructName name ↔ c.types.IsStruct type := by
  constructor
  · rintro ⟨type', struct, mapped'⟩
    rwa [sound.names.lookup_injective mapped mapped']
  · exact fun struct => ⟨type, struct, mapped⟩

namespace Passes

variable (passes : c.Passes entries m)
include passes

theorem isStruct_iff {e : NamedDeclaration} (he : e ∈ entries) :
    e.isStruct = true ↔ c.types.IsStruct e.mapping.type := by
  rw [NamedDeclaration.isStruct_iff]
  simp [Registry.IsStruct, passes.found he]

/-- A generated alias mentions the class of what its type points to. -/
theorem exists_head_mentions_iff : (∃ s ∈ m.head, s.Mentions name) ↔
    ∃ e ∈ entries, ∃ target, e.AliasPointsTo c.types target ∧
      c.names.lookup target = some name := by
  constructor
  · rintro ⟨s, hs, ctype, evaluated, mention⟩
    simp only [BindingModule.head, List.mem_cons, List.mem_append, List.mem_map] at hs
    rcases hs with rfl | ⟨d, hd, rfl⟩ | ⟨r, -, rfl⟩
    · cases evaluated
    · rcases d with class' | ⟨aliasName, type⟩
      · cases evaluated
      · obtain rfl : ctype = type := List.mem_singleton.mp evaluated
        obtain ⟨e, he, emitted⟩ := passes.mem_definitions_iff.mp hd
        obtain ⟨structural, -, lowered⟩ := NamedDeclaration.definition?_eq_alias_iff.mp emitted
        obtain ⟨target, points, mapped⟩ := (Names.represents_of_ctype lowered).back name mention
        exact ⟨e, he, target, ⟨structural, points⟩, mapped⟩
    · cases evaluated
  · rintro ⟨e, he, target, ⟨structural, points⟩, mapped⟩
    obtain ⟨ctype, lowered, emitted⟩ := passes.alias_isOk he structural
    obtain ⟨name', mapped', mention⟩ := (Names.represents_of_ctype lowered).forth target points
    obtain rfl : name' = name := by simpa [mapped'] using mapped
    have emitted : .definition (.alias e.mapping.name ctype) ∈ m.head := by
      simp [BindingModule.head, emitted]
    exact ⟨_, emitted, ctype, List.mem_singleton_self _, mention⟩

/-- A generated binding mentions the classes of what its fields point to. -/
theorem exists_bindings_mentions_iff :
    (∃ b ∈ m.bindings, (Statement.structureFields b).Mentions name) ↔
      ∃ e ∈ entries, ∃ target, e.FieldPointsTo c.types target ∧
        c.names.lookup target = some name := by
  constructor
  · rintro ⟨b, hb, mention⟩
    obtain ⟨e, he, -, built⟩ := passes.mem_bindings_iff.mp hb
    exact ⟨e, he, (StructBinding.mentions_iff built).mp mention⟩
  · rintro ⟨e, he, target, points, mapped⟩
    obtain ⟨b, built⟩ := passes.binding_isOk he points.isStruct
    exact ⟨b, passes.mem_bindings_iff.mpr ⟨e, he, points.isStruct, built⟩,
      (StructBinding.mentions_iff built).mpr ⟨target, points, mapped⟩⟩

/-- Whatever an alias or a field points to has a generated name, or its representation would have
failed. -/
theorem mapped_of_points {e : NamedDeclaration} {target : String} (he : e ∈ entries)
    (points : e.AliasPointsTo c.types target ∨ e.FieldPointsTo c.types target) :
    ∃ name, c.names.lookup target = some name := by
  rcases points with ⟨structural, points⟩ | fieldPoints
  · obtain ⟨ctype, lowered, -⟩ := passes.alias_isOk he structural
    obtain ⟨name, mapped, -⟩ := (Names.represents_of_ctype lowered).forth target points
    exact ⟨name, mapped⟩
  · obtain ⟨b, built⟩ := passes.binding_isOk he fieldPoints.isStruct
    obtain ⟨fields, htype, -, hlayout⟩ := NamedDeclaration.binding_eq_ok built
    obtain ⟨fields', htype', f, hf, points⟩ := fieldPoints
    obtain rfl : fields = fields' := by simpa [htype] using htype'
    obtain ⟨⟨field, ctype⟩, lowered⟩ := isOk_of_mapM hlayout hf
    obtain ⟨name, mapped, -⟩ := (Names.represents_of_ctype
      (StructBinding.layoutField_eq_ok_iff.mp lowered).2).forth target points
    exact ⟨name, mapped⟩

/-- The structure classes are those of the mapped structs. -/
theorem exists_binding_iff (sound : c.Sound) :
    (∃ b ∈ m.bindings, b.name = name) ↔ c.StructName name := by
  constructor
  · rintro ⟨b, hb, rfl⟩
    obtain ⟨e, he, struct, built⟩ := passes.mem_bindings_iff.mp hb
    obtain ⟨-, -, named, -⟩ := NamedDeclaration.binding_eq_ok built
    exact ⟨e.mapping.type, (passes.isStruct_iff he).mp struct,
      named ▸ passes.lookup_of_mem sound he⟩
  · rintro ⟨type, struct, mapped⟩
    obtain ⟨e, he, rfl, rfl⟩ := (sound.names.lookup_iff_of_all passes.listed).mp mapped
    have struct := (passes.isStruct_iff he).mpr struct
    obtain ⟨b, built⟩ := passes.binding_isOk he struct
    obtain ⟨-, -, named, -⟩ := NamedDeclaration.binding_eq_ok built
    exact ⟨b, passes.mem_bindings_iff.mpr ⟨e, he, struct, built⟩, named⟩

/-- Entries and their bindings, item by item. -/
theorem related_bindings : List.Forall₂ (fun e b => e ∈ entries ∧ e.binding c.names = .ok b)
    (entries.filter (·.isStruct)) m.bindings :=
  (List.forall₂_and_left _ _).mpr
    ⟨fun _ he => (List.mem_filter.mp he).1, mapM_eq_ok.mp passes.bindings⟩

theorem exists_named_iff (sound : c.Sound) {es : List NamedDeclaration} {bs : List StructBinding}
    (related : List.Forall₂ (fun e b => e ∈ entries ∧ e.binding c.names = .ok b) es bs)
    {target : String} (mapped : c.names.lookup target = some name) :
    (∃ b ∈ bs, b.name = name) ↔ ∃ e ∈ es, e.mapping.type = target := by
  induction related with
  | nil => simp
  | @cons e b _ _ first _ ih =>
    obtain ⟨he, built⟩ := first
    obtain ⟨-, -, same, -⟩ := NamedDeclaration.binding_eq_ok built
    have own : b.name = name ↔ e.mapping.type = target := by
      rw [same]
      constructor
      · rintro rfl
        exact sound.names.lookup_injective (passes.lookup_of_mem sound he) mapped
      · rintro rfl
        simpa [passes.lookup_of_mem sound he] using mapped
    simp only [List.exists_mem_cons_iff, own, ih]

/-- The fields of bindings mention classes up to their own exactly if the structs among the entries
point to structs up to themselves. -/
theorem throughout_bindings_iff (sound : c.Sound) :
    Throughout (fun before b => ∀ name, (Statement.structureFields b).Mentions name →
        c.StructName name → ∃ b' ∈ before ++ [b], b'.name = name) m.bindings ↔
      Throughout c.PointsUpTo (entries.filter (·.isStruct)) := by
  refine (throughout_iff_of_forall₂ passes.related_bindings ?_).symm
  -- At each place, a class that is mentioned is that of a type that is pointed to, and back.
  intro before before' e b rest first
  have related := List.rel_append rest (.cons first .nil)
  constructor
  · intro upTo name mention struct
    obtain ⟨target, points, mapped⟩ := (StructBinding.mentions_iff first.2).mp mention
    exact (passes.exists_named_iff sound related mapped).mpr
      (upTo target points ((sound.structName_iff mapped).mp struct))
  · intro upTo target points struct
    obtain ⟨name, mapped⟩ := passes.mapped_of_points first.1 (.inr points)
    exact (passes.exists_named_iff sound related mapped).mp
      (upTo name ((StructBinding.mentions_iff first.2).mpr ⟨target, points, mapped⟩)
        ((sound.structName_iff mapped).mpr struct))

/-- What points to structs and what is pointed to are both structs, so the other entries do not
count. -/
theorem throughout_structs_iff :
    Throughout c.PointsUpTo (entries.filter (·.isStruct)) ↔ Throughout c.PointsUpTo entries := by
  rw [throughout_filter]
  refine throughout_congr fun before e after split => ⟨fun upTo target points struct => ?_,
    fun upTo _ target points struct => ?_⟩
  · obtain ⟨e', he', same⟩ := upTo points.isStruct target points struct
    refine ⟨e', ?_, same⟩
    rcases List.mem_append.mp he' with he' | he'
    · exact List.mem_append_left _ (List.mem_filter.mp he').1
    · exact List.mem_append_right _ he'
  · obtain ⟨e', he', rfl⟩ := upTo target points struct
    refine ⟨e', ?_, rfl⟩
    rcases List.mem_append.mp he' with he' | he'
    · have listed : e' ∈ entries := by simp [split, he']
      exact List.mem_append_left _
        (List.mem_filter.mpr ⟨he', (passes.isStruct_iff listed).mpr struct⟩)
    · exact List.mem_append_right _ he'

end Passes

/-! ## A struct that points to itself -/

/-- A document with nothing but such a struct. -/
def selfPointer : Document :=
  .ofDeclarations [⟨"node_t", .struct .cAbi [⟨"next", .pointer (.ref "node_t") true, true⟩]⟩]
    [("node_t", "Node")]

/-- What is mapped when it is composed. -/
def selfPointerEntries : List NamedDeclaration :=
  [⟨.protocol, ⟨"op_t", "Op", none⟩, ⟨"op_t", .enum 8 [⟨"noop", 0⟩]⟩⟩,
    ⟨.protocol, ⟨"packet_t", "Packet", none⟩,
      ⟨"packet_t", .struct .cAbi [⟨"data", .pointer .untyped true, false⟩]⟩⟩,
    ⟨.domain, ⟨"node_t", "Node", none⟩,
      ⟨"node_t", .struct .cAbi [⟨"next", .pointer (.ref "node_t") true, true⟩]⟩⟩]

theorem not_aliasPointsTo_selfPointer {e : NamedDeclaration} (he : e ∈ selfPointerEntries)
    (types : Registry) (target : String) : ¬ e.AliasPointsTo types target := by
  simp only [selfPointerEntries, List.mem_cons, List.not_mem_nil, or_false] at he
  rcases he with rfl | rfl | rfl <;> rintro ⟨⟨⟩, -⟩

theorem fieldPointsTo_selfPointer {e : NamedDeclaration} (he : e ∈ selfPointerEntries)
    {types : Registry} {target : String} (points : e.FieldPointsTo types target) :
    e.mapping.type = target ∧ target = "node_t" := by
  obtain ⟨fields, htype, f, hf, points⟩ := points
  simp only [selfPointerEntries, List.mem_cons, List.not_mem_nil, or_false] at he
  rcases he with rfl | rfl | rfl <;> cases htype <;> cases List.mem_singleton.mp hf <;> cases points
  exact ⟨rfl, rfl⟩

/-! ## When every mention is covered -/

/-- In a generated module, the class of every mapped struct precedes its mentions exactly if no
mapped alias points to a struct and mapped structs point only to structs that are mapped no later
than themselves. Classes and mentions are those of the text. -/
theorem classes_precede_mentions_iff {protocol domain : Document} {options : GeneratorOptions}
    (composed : compose protocol domain = .ok c)
    (generated : (c.generate options).runLog.1 = .ok m) :
    m.ClassesWritten ∧ ∃ entries, c.names.all = .ok entries ∧
      (m.ClassesPrecede c.StructName ↔ c.PointsBack entries) := by
  have sound := sound_of_compose composed
  obtain ⟨entries, passes⟩ := passes_of_generate generated
  refine ⟨m.classesWritten, entries, passes.listed, ?_⟩
  rw [BindingModule.classesPrecede_iff, passes.throughout_bindings_iff sound,
    passes.throughout_structs_iff]
  constructor
  · rintro ⟨aliases, fields⟩
    refine ⟨fun e he target points struct => ?_, fields⟩
    obtain ⟨name, mapped⟩ := passes.mapped_of_points he (.inl points)
    obtain ⟨s, hs, mention⟩ := passes.exists_head_mentions_iff.mpr ⟨e, he, target, points, mapped⟩
    exact aliases s hs name mention ((sound.structName_iff mapped).mpr struct)
  · rintro ⟨aliases, fields⟩
    refine ⟨fun s hs name mention struct => ?_, fields⟩
    obtain ⟨e, he, target, points, mapped⟩ := passes.exists_head_mentions_iff.mp ⟨s, hs, mention⟩
    exact aliases e he target points ((sound.structName_iff mapped).mp struct)

theorem classes_precede_mentions_iff_selfPointer :
    ∃ c m, compose .bareProtocol selfPointer = .ok c ∧
      (c.generate default).runLog.1 = .ok m ∧ m.ClassesPrecede c.StructName := by
  refine ⟨_, _, rfl, rfl, ?_⟩
  obtain ⟨-, entries, listed, exactly⟩ :=
    @classes_precede_mentions_iff _ _ .bareProtocol selfPointer default rfl rfl
  obtain rfl : selfPointerEntries = entries := Except.ok.inj listed
  refine exactly.mpr ⟨fun e he target points => ?_, fun before e after split target points _ => ?_⟩
  · exact absurd points (not_aliasPointsTo_selfPointer he _ target)
  · have he : e ∈ selfPointerEntries := by simp [split]
    exact ⟨e, by simp, (fieldPointsTo_selfPointer he points).1⟩

/-- Two structs that point to each other. -/
def mutualPointers : Document :=
  .ofDeclarations
    [⟨"list_t", .struct .cAbi [⟨"head", .pointer (.ref "node_t") true, true⟩]⟩,
      ⟨"node_t", .struct .cAbi [⟨"list", .pointer (.ref "list_t") false, true⟩]⟩]
    [("list_t", "List"), ("node_t", "Node")]

/-- Whichever of the two comes first, its fields mention the class of the other. -/
theorem fields_mention_class_too_early :
    ∃ c m, compose .bareProtocol mutualPointers = .ok c ∧
      (c.generate default).runLog.1 = .ok m ∧ ¬ m.ClassesPrecede c.StructName := by
  refine ⟨_, _, rfl, rfl, fun ordered => ?_⟩
  have covered := ordered [_, _, _, _, _, _, _] (.structureFields _) _ rfl "Node"
  obtain ⟨s, hs, defined⟩ := covered ⟨.pointer "Node", by simp [Statement.evaluates], rfl⟩
    ⟨"node_t", ⟨_, _, rfl, rfl⟩, rfl⟩
  revert s
  decide

/-- In a generated module, every structure class that is mentioned is defined exactly if whatever a
mapped alias or a field of a mapped struct points to is a struct of the platform's layout. Classes
and mentions are those of the text. -/
theorem mentioned_classes_defined_iff {protocol domain : Document} {options : GeneratorOptions}
    (composed : compose protocol domain = .ok c)
    (generated : (c.generate options).runLog.1 = .ok m) :
    m.ClassesWritten ∧ ∃ entries, c.names.all = .ok entries ∧
      (m.ClassesDefined ↔ c.PointsToStructs entries) := by
  have sound := sound_of_compose composed
  obtain ⟨entries, passes⟩ := passes_of_generate generated
  refine ⟨m.classesWritten, entries, passes.listed, ?_⟩
  simp only [BindingModule.ClassesDefined, BindingModule.exists_defines_statements_iff,
    passes.exists_binding_iff sound]
  constructor
  · intro covered e he target points
    obtain ⟨name, mapped⟩ := passes.mapped_of_points he points
    have mentioned : ∃ s ∈ m.statements, s.Mentions name := by
      rw [BindingModule.exists_mentions_statements_iff]
      refine points.imp (fun points => ?_) fun points => ?_
      · exact passes.exists_head_mentions_iff.mpr ⟨e, he, target, points, mapped⟩
      · exact passes.exists_bindings_mentions_iff.mpr ⟨e, he, target, points, mapped⟩
    obtain ⟨s, hs, mention⟩ := mentioned
    exact (sound.structName_iff mapped).mp (covered s hs name mention)
  · intro covered s hs name mention
    have mentioned := BindingModule.exists_mentions_statements_iff.mp ⟨s, hs, mention⟩
    rcases mentioned with fromHead | fromFields
    · obtain ⟨e, he, target, points, mapped⟩ := passes.exists_head_mentions_iff.mp fromHead
      exact (sound.structName_iff mapped).mpr (covered e he target (.inl points))
    · obtain ⟨e, he, target, points, mapped⟩ := passes.exists_bindings_mentions_iff.mp fromFields
      exact (sound.structName_iff mapped).mpr (covered e he target (.inr points))

theorem mentioned_classes_defined_iff_selfPointer :
    ∃ c m, compose .bareProtocol selfPointer = .ok c ∧
      (c.generate default).runLog.1 = .ok m ∧ m.ClassesDefined := by
  refine ⟨_, _, rfl, rfl, ?_⟩
  obtain ⟨-, entries, listed, exactly⟩ :=
    @mentioned_classes_defined_iff _ _ .bareProtocol selfPointer default rfl rfl
  obtain rfl : selfPointerEntries = entries := Except.ok.inj listed
  refine exactly.mpr fun e he target points => ?_
  rcases points with points | points
  · exact absurd points (not_aliasPointsTo_selfPointer he _ target)
  · obtain ⟨-, rfl⟩ := fieldPointsTo_selfPointer he points
    exact ⟨_, _, rfl, rfl⟩

/-- A struct that points to an enum. -/
def enumPointer : Document :=
  .ofDeclarations [⟨"holder_t", .struct .cAbi [⟨"op", .pointer (.ref "op_t") true, true⟩]⟩]
    [("holder_t", "Holder")]

/-- An enum has a generated name, and no structure class. -/
theorem pointer_to_enum_mentions_no_class :
    ∃ c m, compose .bareProtocol enumPointer = .ok c ∧
      (c.generate default).runLog.1 = .ok m ∧ ¬ m.ClassesDefined := by
  refine ⟨_, _, rfl, rfl, fun covered => ?_⟩
  obtain ⟨s, hs, defined⟩ := covered (.structureFields ⟨"Holder", [], [], some [],
    [("op", .pointer "Op")]⟩) (by decide) "Op" ⟨.pointer "Op", by decide, rfl⟩
  revert s
  decide

end Composition
end NativeBindings
