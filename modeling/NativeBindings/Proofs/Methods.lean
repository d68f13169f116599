import NativeBindings.Proofs.Entries
import NativeBindings.Proofs.FollowedReferences

/-!
# What a method submits and carries

Every operation but the heartbeat is a method of both mixins. What the method refers to exists in
the module: the member of the operation enum, with the discriminant of the variant that the
operation is named after (`Composition.SubmitsVariant`), and the classes that its events and its
results are marshalled with (`Composition.Carries`). The type hint and the wrapper of a type are
found by different walks over different tables. That they belong together is
`Names.wrapper_eq_ok` for where the walks end and `Names.Sound.lookup_of_lookupDomain` for the
names they find there. All of it is stated down to the text: of hints and wrappers, and of the lines
of the method, of the enum class, of the record and of the structure class.

* `Composition.method_of_operation`: all of this for every operation of a generated module.
-/
namespace NativeBindings

/-! ## Wrappers -/

namespace NativeType

theorem isWide_iff {type : NativeType} : type.isWide = true ↔ type = .int 128 false := by
  cases type <;> simp [isWide, and_comm]

end NativeType

namespace Names

variable {names : Names} {type : NativeType} {context : String} {wrapper : Wrapper}

/-- A type with a wrapper ends at a wide integer, or at a declared struct of the platform's layout
that has a generated name. -/
theorem wrapper_eq_ok (h : names.wrapper type context = .ok wrapper) :
    (∃ declaration, names.types.ResolvesTo type ⟨.int 128 false, declaration⟩ ∧
      wrapper = .wideInteger) ∨
    ∃ fields declaration name,
      names.types.ResolvesTo type ⟨.struct .cAbi fields, some declaration⟩ ∧
        names.lookup declaration = some name ∧ wrapper = .struct name := by
  obtain ⟨⟨last, declaration⟩, resolved, h⟩ := bind_eq_ok.mp h
  have leads := Registry.resolvesTo_of_resolve resolved
  cases wide : last.isWide with
  | true =>
    simp only [wide, ↓reduceIte, pure_eq_ok] at h
    obtain rfl := NativeType.isWide_iff.mp wide
    exact .inl ⟨declaration, leads, h.symm⟩
  | false =>
    simp only [wide, Bool.false_eq_true, ↓reduceIte] at h
    split at h
    · rename_i fields declaration' same
      cases same
      simp only [bind_eq_ok, pure_eq_ok, require_eq_ok_iff] at h
      obtain ⟨name, mapped, rfl⟩ := h
      exact .inr ⟨fields, declaration', name, leads, mapped, rfl⟩
    · cases h

end Names

/-! ## Signatures -/

/-- What the method of an operation has to be written as, given the annotations of its event and its
result and the wrappers of both. -/
def Operation.methodLines (o : Operation) (operationEnum : String) (convention : Convention)
    (event result eventWrapper resultWrapper : String) : List String :=
  let (beforeDefinition, beforeSubmission) := match convention with
    | .awaitable => ("async ", "await ")
    | .blocking => ("", "")
  let (parameterType, submitted) := match o.arity with
    | .single => (event, s!"[{o.parameter}]")
    | .batch => (s!"list[{event}]", o.parameter)
  [s!"    {beforeDefinition}def {o.name}(self, {o.parameter}: {parameterType}) " ++
      s!"-> list[{result}]:",
    s!"        return {beforeSubmission}self._submit(",
    s!"            {operationEnum}.{Naming.upper o.name},",
    s!"            {submitted},",
    s!"            {eventWrapper},",
    s!"            {resultWrapper},",
    "        )"]

namespace MethodSignature

variable {names : Names} {operations : OperationEnum} {o : Operation} {s : MethodSignature}

/-- A signature is made of what the parts of an operation are lowered to, unless the operation enum
hides the operation. -/
theorem build_eq_ok (h : build names operations o = .ok s) :
    o.name ∉ operations.hidden ∧ s.name = o.name ∧ s.parameter = o.parameter ∧
      s.batch = (o.arity == .batch) ∧ s.member = s!"{operations.name}.{Naming.upper o.name}" ∧
      (∃ context, names.hint o.event context = .ok s.event ∧
        names.wrapper o.event context = .ok s.eventWrapper) ∧
      ∃ context, names.hint o.result context = .ok s.result ∧
        names.wrapper o.result context = .ok s.resultWrapper := by
  unfold build at h
  split at h
  · cases h
  rename_i shown
  simp only [bind_eq_ok, pure_eq_ok] at h
  obtain ⟨event, hevent, result, hresult, eventWrapper, hevent', resultWrapper, hresult', rfl⟩ := h
  exact ⟨shown, rfl, rfl, rfl, rfl, ⟨_, hevent, hevent'⟩, _, hresult, hresult'⟩

/-- A signature that has the parts of an operation is written as the operation asks. -/
theorem lines_eq_methodLines {operationEnum : String} (name : s.name = o.name)
    (parameter : s.parameter = o.parameter) (batch : s.batch = (o.arity == .batch))
    (member : s.member = s!"{operationEnum}.{Naming.upper o.name}") (convention : Convention) :
    s.lines convention = o.methodLines operationEnum convention s.event.text s.result.text
      s.eventWrapper.text s.resultWrapper.text := by
  unfold lines Operation.methodLines parameterType submitted returnType
  rw [name, parameter, batch, member]
  have arrow (rest : String) : "-> " ++ ("list[" ++ rest) = "-> list[" ++ rest := by
    rw [← String.append_assoc]
    rfl
  cases convention <;> cases o.arity <;> simp [Convention.beforeDefinition,
    Convention.beforeSubmission, toString, String.append_assoc, arrow]

theorem lines_infix_mixinLines {methods : List MethodSignature} (hs : s ∈ methods)
    (operationEnum : String) (convention : Convention) :
    s.lines convention <:+: mixinLines methods operationEnum convention := by
  obtain ⟨before, after, rfl⟩ := List.append_of_mem hs
  refine ⟨[s!"class {convention.className}:",
    s!"    _submit: Callable[[{operationEnum}, Any, Any, Any], Any]"] ++
    before.flatMap (fun m => "" :: m.lines convention) ++ [""],
    after.flatMap (fun m => "" :: m.lines convention) ++ ["", ""], ?_⟩
  simp only [mixinLines, List.flatMap_append, List.flatMap_cons, List.append_assoc,
    List.cons_append, List.nil_append]

theorem mem_buildAll {operations' : List Operation} {methods : List MethodSignature}
    (all : buildAll names operations operations' = .ok methods) (ho : o ∈ operations')
    (shown : o.name ≠ heartbeat) : ∃ s ∈ methods, build names operations o = .ok s := by
  have listed : o ∈ exposed operations' := List.mem_filter.mpr ⟨ho, by simpa using shown⟩
  obtain ⟨s, built⟩ := isOk_of_mapM all listed
  exact ⟨s, (mem_iff_of_mapM all).mpr ⟨o, listed, built⟩, built⟩

end MethodSignature

namespace StructBinding

variable (b : StructBinding)

/-- The lines with which a binding is constructed: one argument for each exposed field. -/
theorem construction_infix_lines : ["        return cls("] ++
    b.stored.map (fun f => argument f.1 (f.2.text f.1)) ++ ["        )"] <:+: b.lines := by
  refine ⟨[s!"class {b.className}(ctypes.Structure):", "    @classmethod",
      "    def from_param(cls, obj):"] ++ b.checks.map (fun c =>
      s!"        validate_uint(bits={countText c.bits}, name=\"{c.field}\", number=obj.{c.field})"),
    b.converterLines ++ ["", ""] ++ b.fieldLines, ?_⟩
  simp only [lines, classLines, List.append_assoc, List.cons_append, List.nil_append]

/-- The lines with which a binding is converted back, if there is a record to convert to. -/
theorem conversion_infix_lines {b : StructBinding} {fields : List (String × Restored)}
    (h : b.restored = some fields) : ["    def to_python(self):", s!"        return {b.name}("] ++
      fields.map (fun f => argument f.1 (f.2.text f.1)) ++ ["        )"] <:+: b.lines := by
  refine ⟨[s!"class {b.className}(ctypes.Structure):", "    @classmethod",
      "    def from_param(cls, obj):"] ++ b.checks.map (fun c =>
    s!"        validate_uint(bits={countText c.bits}, name=\"{c.field}\", number=obj.{c.field})") ++
    ["        return cls("] ++
    b.stored.map (fun f => argument f.1 (f.2.text f.1)) ++ ["        )", ""],
    ["", ""] ++ b.fieldLines, ?_⟩
  simp only [lines, classLines, converterLines, h, List.append_assoc, List.cons_append,
    List.nil_append]

theorem mem_lines_of_mem_layout {field : String} {ctype : Ctype} (h : (field, ctype) ∈ b.layout) :
    s!"    (\"{field}\", {ctype.text})," ∈ b.lines := by
  have listed : s!"    (\"{field}\", {ctype.text})," ∈ b.fieldLines := by
    simp only [fieldLines, List.mem_append, List.mem_map]
    exact .inl (.inr ⟨_, h, rfl⟩)
  exact List.mem_append_right _ listed

/-- A binding converts back to the record of a name: its class has the lines of that method. -/
def ConvertsTo (b : StructBinding) (record : String) : Prop :=
  ["    def to_python(self):", s!"        return {record}("] <:+: b.lines

theorem convertsTo_of_restored {b : StructBinding} {fields : List (String × Restored)}
    (h : b.restored = some fields) : b.ConvertsTo b.name := by
  have method : ["    def to_python(self):", s!"        return {b.name}("] <:+:
      ["    def to_python(self):", s!"        return {b.name}("] ++
        fields.map (fun f => argument f.1 (f.2.text f.1)) ++ ["        )"] := by
    rw [List.append_assoc]
    exact (List.prefix_append _ _).isInfix
  exact method.trans (conversion_infix_lines h)

end StructBinding

/-- A class of integers begins with a line that says so. -/
theorem EnumClass.integers_prefix_lines (name : String) (members : List EnumMember) :
    [s!"class {name}(enum.IntEnum):"] <+: lines ⟨name, .integers, members⟩ := by
  have first : s!"class {name}(enum.IntEnum):" = s!"class {name}({EnumBase.integers.text}):" := by
    simp [EnumBase.text, toString, String.append_assoc]
  rw [lines, List.append_assoc, List.append_assoc, first]
  exact List.prefix_append _ _

/-- A class of flags begins with a line that says so, and with the member for none of them. -/
theorem EnumClass.flags_prefix_lines {c : EnumClass} (flags : c.base = .flags)
    (first : c.members.head? = some noFlags) :
    [s!"class {c.name}(enum.IntFlag):", "    NONE = 0"] <+: c.lines := by
  obtain ⟨name, base, members⟩ := c
  cases flags
  obtain ⟨rest, rfl⟩ := List.head?_eq_some_iff.mp first
  refine ⟨rest.map (fun member => s!"    {member.name} = {member.expression.text}") ++ ["", ""], ?_⟩
  have head : s!"class {name}(enum.IntFlag):" = s!"class {name}({EnumBase.flags.text}):" := by
    simp [EnumBase.text, toString, String.append_assoc]
  rw [lines, head]
  rfl

theorem EnumClass.mem_lines_of_member {c : EnumClass} {name : String} {value value' : Int}
    (h : ⟨name, value', .numeral value⟩ ∈ c.members) : s!"    {name} = {value}" ∈ c.lines := by
  have line := List.mem_map_of_mem (f := fun member : EnumMember =>
    s!"    {member.name} = {member.expression.text}") h
  simp only [lines, List.mem_append]
  exact .inl (.inr line)

namespace BindingModule

variable {m : BindingModule}

theorem lines_mem_blocks_of_definition {d : Definition} (h : d ∈ m.definitions) :
    d.lines ∈ m.blocks := by
  simp only [blocks, List.mem_append]
  exact .inl (.inl (.inl (.inl (.inr (List.mem_map_of_mem h)))))

theorem lines_mem_blocks_of_record {r : Record} (h : r ∈ m.records) : r.lines ∈ m.blocks := by
  simp only [blocks, List.mem_append]
  exact .inl (.inl (.inl (.inr (List.mem_map_of_mem h))))

theorem lines_mem_blocks_of_binding {b : StructBinding} (h : b ∈ m.bindings) :
    b.lines ∈ m.blocks := by
  simp only [blocks, List.mem_append]
  exact .inl (.inl (.inr (List.mem_map_of_mem h)))

end BindingModule

namespace Composition

variable {c : Composition} {m : BindingModule} {entries : List NamedDeclaration}

/-! ## What is submitted -/

/-- A signature submits the member of the operation enum for the variant that an operation is named
after: the enum's class has a member of that name with the variant's discriminant, and a line that
says so. -/
structure SubmitsVariant (c : Composition) (m : BindingModule) (o : Operation)
    (s : MethodSignature) : Prop where
  named : c.names.lookup c.client.roles.operation = some m.operationEnum
  member : s.member = s!"{m.operationEnum}.{Naming.upper o.name}"
  variant : ∃ d tagBits variants v class',
    c.types.find? c.client.roles.operation = some d ∧ d.type = .enum tagBits variants ∧
      v ∈ variants ∧ v.name = o.name ∧ Definition.enumClass class' ∈ m.definitions ∧
      class'.name = m.operationEnum ∧
      ⟨Naming.upper o.name, v.value, .numeral v.value⟩ ∈ class'.members ∧
      class'.lines ∈ m.blocks ∧
      [s!"class {m.operationEnum}(enum.IntEnum):"] <+: class'.lines ∧
      s!"    {Naming.upper o.name} = {v.value}" ∈ class'.lines

theorem Sound.mappedSkip_eq (sound : c.Sound) (passes : c.Passes entries m)
    {e : NamedDeclaration} (he : e ∈ entries) :
    mappedSkip c.names e.mapping.type = e.mapping.skip := by
  obtain ⟨-, -, -, -, -, -, same, -⟩ := Names.all_eq_ok passes.listed
  have mapped : e.mapping ∈ c.names.mappings := same ▸ List.mem_map_of_mem he
  unfold mappedSkip
  rcases List.mem_append.mp mapped with first | second
  · have other : c.names.domain.find? e.mapping.type = none := by
      refine Option.eq_none_iff_forall_ne_some.mpr fun m' found => ?_
      obtain ⟨hm', same'⟩ := NameTable.find?_eq_some_iff.mp found
      have apart := sound.names.apart m' hm'
      rw [same'] at apart
      simp [NameTable.lookup, NameTable.find?_eq_some_iff.mpr ⟨first, rfl⟩] at apart
    rw [NameTable.find?_eq_some_iff.mpr ⟨first, rfl⟩, other]
    simp
  · have other : c.names.protocol.find? e.mapping.type = none := by
      simpa [NameTable.lookup] using sound.names.apart _ second
    rw [NameTable.find?_eq_some_iff.mpr ⟨second, rfl⟩, other]
    simp

theorem Sound.submitsVariant (sound : c.Sound) (passes : c.Passes entries m) {o : Operation}
    (ho : o ∈ c.operations) {operations : OperationEnum}
    (enum : c.operationEnum = .ok operations) (named : m.operationEnum = operations.name)
    {s : MethodSignature} (shown : o.name ∉ operations.hidden)
    (member : s.member = s!"{operations.name}.{Naming.upper o.name}") :
    c.SubmitsVariant m o s := by
  obtain ⟨d, tagBits, variants, found, htype⟩ := sound.operationEnum
  simp only [Composition.operationEnum, roleName, bind_eq_ok, pure_eq_ok, Names.require_eq_ok_iff,
    Registry.get_eq_ok_iff, found, Option.some.injEq, exists_eq_left'] at enum
  obtain ⟨name, mapped, rfl⟩ := enum
  -- The entry of the operation enum, and the class that the first pass made of it.
  obtain ⟨e, he, isRole, rfl⟩ := (sound.names.lookup_iff_of_all passes.listed).mp mapped
  have same : some e.declaration = some d := by rw [← passes.found he, isRole]; exact found
  cases same
  obtain ⟨class', built, emitted⟩ := passes.enumClass_isOk he (by rw [htype]; rfl)
  have skip := sound.mappedSkip_eq passes he
  rw [isRole] at skip
  change mappedSkip c.names c.client.roles.operation = e.mapping.skip at skip
  obtain rfl := EnumClass.build_of_enum htype built
  -- The variant is a member of the declaration, and its name is not among those skipped.
  have isMember := sound.isMember _ found o ho
  rw [htype, members] at isMember
  obtain ⟨v, hv, sameName⟩ := List.mem_map.mp isMember
  have isShown : v ∈ variants.filter
      (·.name ∉ EnumClass.skipList e.declaration.type e.mapping.skip) := by
    rw [skip] at shown
    exact List.mem_filter.mpr ⟨hv, by simpa [sameName] using shown⟩
  have listed := List.mem_map_of_mem (f := EnumClass.ofVariant) isShown
  rw [EnumClass.ofVariant, sameName] at listed
  refine ⟨by rw [named]; exact mapped, by rw [named]; exact member,
    e.declaration, tagBits, variants, v, _, found, htype, hv, sameName, emitted, named.symm, listed,
    BindingModule.lines_mem_blocks_of_definition emitted, ?_, EnumClass.mem_lines_of_member listed⟩
  rw [named]
  exact EnumClass.integers_prefix_lines e.mapping.name _

/-! ## What is carried -/

/-- A module has a record of a name, whose lines begin with a class of that name. -/
def HasRecord (m : BindingModule) (name : String) : Prop :=
  ∃ r ∈ m.records, r.name = name ∧ r.lines ∈ m.blocks ∧
    ["@dataclass", s!"class {name}:"] <+: r.lines

/-- A module has a structure class for a name that converts back to the record of the name. -/
def HasStructure (m : BindingModule) (name : String) : Prop :=
  ∃ b ∈ m.bindings, b.name = name ∧ b.lines ∈ m.blocks ∧
    [s!"class C{name}(ctypes.Structure):"] <+: b.lines ∧ b.ConvertsTo name

/-- A type hint and a wrapper carry a type: as an integer through the wrapper of wide integers, or
as the record of a struct of the domain table through the structure class that converts back to the
record, both defined by the module. -/
inductive Carries (c : Composition) (m : BindingModule) (type : NativeType) (hint : TypeHint)
    (wrapper : Wrapper) : Prop
  | wide {declaration : Option String}
      (ends : c.types.ResolvesTo type ⟨.int 128 false, declaration⟩) (integer : hint = .int)
      (wideInteger : wrapper = .wideInteger) (hintText : hint.text = "int")
      (wrapperText : wrapper.text = "c_uint128")
  | struct {fields : Fields} {declaration name : String}
      (ends : c.types.ResolvesTo type ⟨.struct .cAbi fields, some declaration⟩)
      (mapped : c.names.lookupDomain declaration = some name) (named : hint = .named name)
      (viaClass : wrapper = .struct name) (hintText : hint.text = name)
      (wrapperText : wrapper.text = "C" ++ name) (record : HasRecord m name)
      (binding : HasStructure m name)

/-- A mapped struct of the domain table has a record, and a binding that converts to it. -/
theorem Passes.record_and_binding (passes : c.Passes entries m) {e : NamedDeclaration}
    (he : e ∈ entries) (table : e.table = .domain) (struct : e.isStruct = true) :
    HasRecord m e.mapping.name ∧ HasStructure m e.mapping.name := by
  constructor
  · obtain ⟨r, hr, built⟩ := passes.record_isOk he table struct
    obtain ⟨-, -, named, -⟩ := Record.build_eq_ok_iff.mp built
    refine ⟨r, hr, named, BindingModule.lines_mem_blocks_of_record hr, ?_⟩
    rw [← named]
    simp only [Record.lines, List.append_assoc]
    exact List.prefix_append _ _
  · obtain ⟨b, bound⟩ := passes.binding_isOk he struct
    obtain ⟨fields, built⟩ := StructBinding.builtFrom_of_build bound
    have restored := built.restored
    rw [if_pos (by rw [table]; rfl)] at restored
    obtain ⟨fields', -, hrestored⟩ := restored
    have converts := StructBinding.convertsTo_of_restored hrestored
    rw [built.named] at converts
    have hb := passes.mem_bindings_iff.mpr ⟨e, he, struct, bound⟩
    refine ⟨b, hb, built.named, BindingModule.lines_mem_blocks_of_binding hb, ?_, converts⟩
    rw [← built.named]
    simp only [StructBinding.lines, StructBinding.classLines, List.append_assoc, List.cons_append]
    exact List.cons_prefix_cons.mpr ⟨rfl, List.nil_prefix⟩

theorem Sound.carries (sound : c.Sound) (passes : c.Passes entries m) {type : NativeType}
    {context : String} {hint : TypeHint} {wrapper : Wrapper}
    (hinted : c.names.hint type context = .ok hint)
    (wrapped : c.names.wrapper type context = .ok wrapper) : c.Carries m type hint wrapper := by
  rcases Names.wrapper_eq_ok wrapped with
    ⟨declaration, ends, rfl⟩ | ⟨fields, declaration, name, ends, mapped, rfl⟩
  · obtain ⟨context', same⟩ := Names.hint_of_resolvesTo sound.types ends rfl context
    rw [same] at hinted
    cases hinted
    exact .wide ends rfl rfl TypeHint.text_int Wrapper.text_wideInteger
  · obtain ⟨context', same⟩ := Names.hint_of_resolvesTo_nominal sound.types ends rfl rfl context
    rw [same] at hinted
    obtain ⟨name', required, rfl⟩ := map_eq_ok.mp hinted
    have inDomain := Names.requireDomain_eq_ok_iff.mp required
    -- The wrapper is looked up in both tables, the hint in the domain table only.
    have sameName : name' = name := by
      have both := sound.names.lookup_of_lookupDomain inDomain
      rw [mapped] at both
      exact (Option.some.inj both).symm
    subst sameName
    obtain ⟨e, he, table, rfl, rfl⟩ := Names.exists_domain_entry passes.listed inDomain
    rcases ends.declaration_type with ⟨none, -⟩ | ⟨last, d, isLast, found, htype⟩
    · cases none
    cases isLast
    have same : some e.declaration = some d := (passes.found he).symm.trans found
    cases same
    have struct : e.isStruct = true := NamedDeclaration.isStruct_iff.mpr ⟨fields, htype⟩
    obtain ⟨record, binding⟩ := passes.record_and_binding he table struct
    exact .struct ends inDomain rfl rfl (TypeHint.text_named _) (Wrapper.text_struct _) record
      binding

/-! ## Methods -/

/-- In a generated module, every operation but the heartbeat has a method in both mixins, with the
lines that the operation asks for. It submits the member of the operation enum for the operation's
variant, and its event and its result are carried by hints and wrappers that belong together. -/
theorem method_of_operation {protocol domain : Document} {options : GeneratorOptions}
    (composed : compose protocol domain = .ok c)
    (generated : (c.generate options).runLog.1 = .ok m) {o : Operation} (ho : o ∈ c.operations)
    (shown : o.name ≠ heartbeat) :
    ∃ s ∈ m.methods, s.name = o.name ∧ s.parameter = o.parameter ∧
      (∀ convention ∈ Convention.all,
        mixinLines m.methods m.operationEnum convention ∈ m.blocks ∧
          s.lines convention <:+: mixinLines m.methods m.operationEnum convention ∧
          s.lines convention = o.methodLines m.operationEnum convention s.event.text s.result.text
            s.eventWrapper.text s.resultWrapper.text) ∧
      c.SubmitsVariant m o s ∧
      c.Carries m o.event s.event s.eventWrapper ∧ c.Carries m o.result s.result s.resultWrapper ∧
      s.parameterType = (match o.arity with
        | .single => s.event.text
        | .batch => s!"list[{s.event.text}]") ∧
      s.returnType = s!"list[{s.result.text}]" := by
  have sound := sound_of_compose composed
  obtain ⟨entries, passes⟩ := passes_of_generate generated
  obtain ⟨operations, enum, named, all⟩ := passes.methods
  obtain ⟨s, hs, built⟩ := MethodSignature.mem_buildAll all ho shown
  obtain ⟨visible, sameName, parameter, batch, member, ⟨_, event, eventWrapper⟩, _, result,
    resultWrapper⟩ := MethodSignature.build_eq_ok built
  refine ⟨s, hs, sameName, parameter, fun convention hconvention => ⟨?_, ?_, ?_⟩,
    sound.submitsVariant passes ho enum named visible member,
    sound.carries passes event eventWrapper, sound.carries passes result resultWrapper, ?_, rfl⟩
  · exact List.mem_append_right _ (List.mem_map_of_mem hconvention)
  · exact MethodSignature.lines_infix_mixinLines hs m.operationEnum convention
  · rw [named]
    exact MethodSignature.lines_eq_methodLines sameName parameter batch member convention
  · rw [MethodSignature.parameterType, batch]
    cases o.arity <;> rfl

/-- A document with an operation that takes wide integers through two aliases and gives structs. -/
def lookupAccounts : Document where
  metadata := ⟨"domain", 1, none⟩
  types := [⟨"id_t", .int 128 false⟩, ⟨"key_t", .ref "id_t"⟩,
    ⟨"account_t", .struct .cAbi [⟨"id", .ref "key_t", false⟩, ⟨"rest", .int 32 false, true⟩]⟩]
  mappings := [⟨"account_t", "Account", none⟩]
  operations := [⟨"noop", .batch, .ref "key_t", .ref "account_t", "keys"⟩]

theorem method_of_operation_lookupAccounts : ∃ c m o,
    compose .bareProtocol lookupAccounts = .ok c ∧ (c.generate default).runLog.1 = .ok m ∧
      o ∈ c.operations ∧ o.name ≠ heartbeat ∧ o.arity = .batch ∧
      ∃ s ∈ m.methods, c.SubmitsVariant m o s ∧ c.Carries m o.event s.event s.eventWrapper ∧
        c.Carries m o.result s.result s.resultWrapper ∧ s.parameterType = s!"list[{s.event.text}]"
    := by
  refine ⟨_, _, _, rfl, rfl, List.mem_singleton_self _, by decide, rfl, ?_⟩
  obtain ⟨s, hs, -, -, -, submits, event, result, parameterType, -⟩ :=
    @method_of_operation _ _ .bareProtocol lookupAccounts default rfl rfl _
      (List.mem_singleton_self _) (by decide)
  exact ⟨s, hs, submits, event, result, parameterType⟩

end Composition
end NativeBindings
