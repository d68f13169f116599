import NativeBindings.Proofs.CommandRuns
import NativeBindings.Proofs.ModulePaths

/-!
# Option records

When a record of options is accepted, and what is read from it. Every option may be left out, and
one that is given must be a text that satisfies its rule (`CommandOptions.Acceptable`). What is read
is what is given, and the default of what is left out (`CommandOptions.ReadFrom`).

Options that have been read can be written as a record again (`CommandOptions.record`). They satisfy
the rules that they were read by, the defaults included (`CommandOptions.Valid`), so that reading
the record gives them back, and so does reading the part of it that concerns the generation.

* `CommandOptions.resolve_eq_ok_iff` and `GeneratorOptions.resolve_eq_ok_iff`: what reading gives.
* `CommandOptions.accepted_once_for_all`: which records are accepted, and that options need not be
  checked again once they have been.
-/
namespace NativeBindings

/-! ## Rules -/

/-- The text that a record gives for an option. -/
def Value.text? (input : Value) (name : String) : Option String :=
  match input.get? name with
  | some (.text s) => some s
  | _ => none

/-- An option that is given is a text that satisfies a rule. -/
def Value.Permits (input : Value) (name : String) (rule : String → Prop) : Prop :=
  ∀ value, input.get? name = some value → ∃ s, value = .text s ∧ rule s

/-- A name that fits in one line. -/
def IsOneLine (name : String) : Prop := name ≠ "" ∧ '\r' ∉ name.toList ∧ '\n' ∉ name.toList

/-- The words for log levels. -/
def LogLevel.words : List String := ["debug", "info", "warn", "error", "silent"]

namespace GeneratorOptions

/-- A record from which the options of a generation can be read. -/
structure Acceptable (input : Value) : Prop where
  isRecord : ∃ entries, input = .map entries
  runtimeModule : input.Permits "runtimeModule" Text.IsModulePath
  generatorName : input.Permits "generatorName" IsOneLine

/-- The options that a record gives, and the defaults of those it leaves out. -/
structure ReadFrom (input : Value) (o : GeneratorOptions) : Prop where
  runtimeModule : o.runtimeModule = (input.text? "runtimeModule").getD ".lib"
  generatorName : o.generatorName = (input.text? "generatorName").getD "wirebind"

/-- Options that satisfy their rules. -/
structure Valid (o : GeneratorOptions) : Prop where
  runtimeModule : Text.IsModulePath o.runtimeModule
  generatorName : IsOneLine o.generatorName

/-- A record gives exactly these options; whatever else it holds. -/
structure WrittenAs (input : Value) (o : GeneratorOptions) : Prop where
  isRecord : ∃ entries, input = .map entries
  runtimeModule : input.get? "runtimeModule" = (some o.runtimeModule).map .text
  generatorName : input.get? "generatorName" = (some o.generatorName).map .text

/-- The entries of the options of a generation. -/
def entries (o : GeneratorOptions) : List (String × Value) :=
  [("runtimeModule", .text o.runtimeModule), ("generatorName", .text o.generatorName)]

/-- The options of a generation as a record. -/
def record (o : GeneratorOptions) : Value := .map o.entries

end GeneratorOptions

namespace CommandOptions

/-- A record from which the options of the command line can be read. -/
structure Acceptable (input : Value) : Prop extends GeneratorOptions.Acceptable input where
  protocolPath : input.Permits "protocolPath" (· ≠ "")
  domainPath : input.Permits "domainPath" (· ≠ "")
  outPath : input.Permits "outPath" (· ≠ "")
  logLevel : input.Permits "logLevel" (· ∈ LogLevel.words)

/-- The options that a record gives, and the defaults of those it leaves out. -/
structure ReadFrom (input : Value) (o : CommandOptions) : Prop
    extends GeneratorOptions.ReadFrom input o.toGeneratorOptions where
  protocolPath : o.protocolPath = input.text? "protocolPath"
  domainPath : o.domainPath = input.text? "domainPath"
  outPath : o.outPath = input.text? "outPath"
  logLevel : o.logLevel.text = (input.text? "logLevel").getD "info"

/-- Options that satisfy their rules. -/
structure Valid (o : CommandOptions) : Prop
    extends GeneratorOptions.Valid o.toGeneratorOptions where
  protocolPath : ∀ path ∈ o.protocolPath, path ≠ ""
  domainPath : ∀ path ∈ o.domainPath, path ≠ ""
  outPath : ∀ path ∈ o.outPath, path ≠ ""

/-- A record gives exactly these options; whatever else it holds. -/
structure WrittenAs (input : Value) (o : CommandOptions) : Prop
    extends GeneratorOptions.WrittenAs input o.toGeneratorOptions where
  protocolPath : input.get? "protocolPath" = o.protocolPath.map .text
  domainPath : input.get? "domainPath" = o.domainPath.map .text
  outPath : input.get? "outPath" = o.outPath.map .text
  logLevel : input.get? "logLevel" = (some o.logLevel.text).map .text

/-- The entry of a path, if there is one. -/
def pathEntries (name : String) (path : Option String) : List (String × Value) :=
  (path.map fun path => (name, .text path)).toList

/-- The options of the command line as a record; paths that are not there are left out. -/
def record (o : CommandOptions) : Value :=
  .map (o.entries ++ pathEntries "protocolPath" o.protocolPath ++
    pathEntries "domainPath" o.domainPath ++ pathEntries "outPath" o.outPath ++
    [("logLevel", .text o.logLevel.text)])

end CommandOptions

/-! ## Reading single options -/

namespace Value

variable {input : Value} {name : String} {rule : String → Prop}

theorem permits_congr {rule' : String → Prop} (same : ∀ s, rule s ↔ rule' s) :
    input.Permits name rule ↔ input.Permits name rule' := by
  simp only [Permits, same]

theorem Permits.of_text? (h : input.Permits name rule) {s : String}
    (found : input.text? name = some s) : rule s := by
  unfold text? at found
  split at found
  · rename_i s' same
    cases found
    obtain ⟨s', isText, holds⟩ := h _ same
    cases isText
    exact holds
  · cases found

/-- An option satisfies its rule if its default does. -/
theorem Permits.getD (h : input.Permits name rule) {default : String} (standard : rule default) :
    rule ((input.text? name).getD default) := by
  cases found : input.text? name with
  | none => exact standard
  | some s => exact h.of_text? found

end Value

namespace LogLevel

theorem ofText?_eq_some_iff {word : String} {level : LogLevel} :
    ofText? word = some level ↔ word = level.text := by
  constructor
  · intro read
    unfold ofText? at read
    split at read
    · rename_i silent
      cases read
      exact silent
    · obtain ⟨severity, found, rfl⟩ := Option.map_eq_some_iff.mp read
      have same := List.find?_some found
      exact (beq_iff_eq.mp same).symm
  · rintro rfl
    rcases level with (_ | _ | _ | _) | _ <;> rfl

theorem mem_words_iff {word : String} : word ∈ words ↔ ∃ level, ofText? word = some level := by
  simp only [ofText?_eq_some_iff]
  constructor
  · intro listed
    simp only [words, List.mem_cons, List.not_mem_nil, or_false] at listed
    rcases listed with rfl | rfl | rfl | rfl | rfl
    exacts [⟨.atLeast .debug, rfl⟩, ⟨.atLeast .info, rfl⟩, ⟨.atLeast .warn, rfl⟩,
      ⟨.atLeast .error, rfl⟩, ⟨.silent, rfl⟩]
  · rintro ⟨level, rfl⟩
    rcases level with (_ | _ | _ | _) | _ <;> decide

theorem text_injective : Function.Injective text := fun _ _ same =>
  Option.some.inj ((ofText?_eq_some_iff.mpr rfl).symm.trans (ofText?_eq_some_iff.mpr same))

end LogLevel

namespace OptionReader

variable {input : Value} {name : String}

theorem text_fst (input : Value) (name : String) (check : String → List OptionIssue) :
    (text input name check).1 = input.text? name := by
  unfold text Value.text?
  split <;> simp_all

theorem text_snd_eq_nil_iff {check : String → List OptionIssue} :
    (text input name check).2 = [] ↔ input.Permits name (check · = []) := by
  unfold text Value.Permits
  split <;> simp_all

theorem level_fst (input : Value) (name : String) :
    (level input name).1 = (input.text? name).bind LogLevel.ofText? := by
  unfold level Value.text?
  split
  · simp_all
  · split <;> simp_all
  · simp_all

theorem level_snd_eq_nil_iff :
    (level input name).2 = [] ↔ input.Permits name (· ∈ LogLevel.words) := by
  unfold level Value.Permits
  split
  · simp_all
  · split <;> simp_all [LogLevel.mem_words_iff]
  · simp_all

theorem level_getD_eq_iff {level' : LogLevel} (h : input.Permits name (· ∈ LogLevel.words)) :
    (level input name).1.getD .standard = level' ↔
      level'.text = (input.text? name).getD "info" := by
  rw [level_fst, ← LogLevel.text_injective.eq_iff, eq_comm]
  cases found : input.text? name with
  | none => rfl
  | some word =>
    obtain ⟨level, read⟩ := LogLevel.mem_words_iff.mp (h.of_text? found)
    rw [Option.bind_some, read, LogLevel.ofText?_eq_some_iff.mp read]
    rfl

theorem path_snd_eq_nil_iff : (path input name).2 = [] ↔ input.Permits name (· ≠ "") := by
  rw [path, text_snd_eq_nil_iff]
  refine Value.permits_congr fun s => ?_
  simp

theorem run_eq_ok_iff {α : Type} {reader : Value → OptionReader α} {what : String} {a : α} :
    run reader what input = .ok a ↔
      (∃ entries, input = .map entries) ∧ (reader input).1 = a ∧ (reader input).2 = [] := by
  unfold run
  split
  · rename_i entries
    cases reader (.map entries) with
    | mk options issues => cases issues <;> simp
  · rename_i other
    simp_all

/-- Nothing is wrong with a name that fits in one line. -/
theorem oneLine_issues_eq_nil_iff {s : String} :
    (if s.isEmpty then [OptionIssue.empty "generatorName"] else []) ++
      (if s.isEmpty || s.toList.any breaksLine then [.notOneLine "generatorName"] else []) = [] ↔
      IsOneLine s := by
  have broken : s.toList.any breaksLine = false ↔ '\r' ∉ s.toList ∧ '\n' ∉ s.toList := by
    simp only [List.any_eq_false, breaksLine, Bool.or_eq_true, beq_iff_eq]
    constructor
    · exact fun each => ⟨fun mem => each _ mem (.inr rfl), fun mem => each _ mem (.inl rfl)⟩
    · rintro ⟨carriage, line⟩ c mem (rfl | rfl)
      · exact line mem
      · exact carriage mem
  rw [IsOneLine, ← broken]
  cases filled : s.isEmpty <;> cases s.toList.any breaksLine <;> simp_all

theorem modulePath_issues_eq_nil_iff {s : String} :
    (if Text.isModulePath s then [] else [OptionIssue.notAModulePath "runtimeModule"]) = [] ↔
      Text.IsModulePath s := by
  rw [← Text.isModulePath_iff]
  split <;> simp_all

end OptionReader

/-! ## Reading records -/

namespace GeneratorOptions

variable {input : Value} {o : GeneratorOptions}

theorem generator_fst_eq_iff : (OptionReader.generator input).1 = o ↔ o.ReadFrom input := by
  show (⟨(OptionReader.text _ _ _).1.getD ".lib", (OptionReader.text _ _ _).1.getD "wirebind"⟩ :
    GeneratorOptions) = o ↔ _
  rw [OptionReader.text_fst, OptionReader.text_fst]
  constructor
  · rintro rfl
    exact ⟨rfl, rfl⟩
  · rintro ⟨modulePath, name⟩
    cases o
    exact congrArg₂ _ modulePath.symm name.symm

theorem generator_snd_eq_nil_iff : (OptionReader.generator input).2 = [] ↔
    input.Permits "runtimeModule" Text.IsModulePath ∧ input.Permits "generatorName" IsOneLine := by
  show (OptionReader.text _ _ _).2 ++ (OptionReader.text _ _ _).2 = [] ↔ _
  rw [List.append_eq_nil_iff, OptionReader.text_snd_eq_nil_iff, OptionReader.text_snd_eq_nil_iff]
  exact and_congr (Value.permits_congr fun _ => OptionReader.modulePath_issues_eq_nil_iff)
    (Value.permits_congr fun _ => OptionReader.oneLine_issues_eq_nil_iff)

/-- The options of a generation are read from the records that are acceptable. -/
theorem resolve_eq_ok_iff : resolve (some input) = .ok o ↔ Acceptable input ∧ o.ReadFrom input := by
  rw [resolve, Option.getD_some, OptionReader.run_eq_ok_iff, generator_fst_eq_iff,
    generator_snd_eq_nil_iff]
  constructor
  · rintro ⟨isRecord, read, modulePath, name⟩
    exact ⟨⟨isRecord, modulePath, name⟩, read⟩
  · rintro ⟨⟨isRecord, modulePath, name⟩, read⟩
    exact ⟨isRecord, read, modulePath, name⟩

end GeneratorOptions

namespace CommandOptions

variable {input : Value} {o : CommandOptions}

theorem command_fst_eq_iff (levelled : input.Permits "logLevel" (· ∈ LogLevel.words)) :
    (OptionReader.command input).1 = o ↔ o.ReadFrom input := by
  show (⟨(OptionReader.generator input).1, (OptionReader.text _ _ _).1,
    (OptionReader.text _ _ _).1, (OptionReader.text _ _ _).1,
    (OptionReader.level _ _).1.getD .standard⟩ : CommandOptions) = o ↔ _
  rw [OptionReader.text_fst, OptionReader.text_fst, OptionReader.text_fst]
  constructor
  · rintro rfl
    exact ⟨GeneratorOptions.generator_fst_eq_iff.mp rfl, rfl, rfl, rfl,
      (OptionReader.level_getD_eq_iff levelled).mp rfl⟩
  · rintro ⟨generator, protocol, domain, out, level⟩
    cases o
    dsimp only at generator protocol domain out level
    rw [GeneratorOptions.generator_fst_eq_iff.mpr generator, ← protocol, ← domain, ← out,
      (OptionReader.level_getD_eq_iff levelled).mpr level]

theorem command_snd_eq_nil_iff : (OptionReader.command input).2 = [] ↔
    (OptionReader.generator input).2 = [] ∧ input.Permits "protocolPath" (· ≠ "") ∧
      input.Permits "domainPath" (· ≠ "") ∧ input.Permits "outPath" (· ≠ "") ∧
      input.Permits "logLevel" (· ∈ LogLevel.words) := by
  show (OptionReader.generator input).2 ++ (OptionReader.path _ _).2 ++ (OptionReader.path _ _).2 ++
    (OptionReader.path _ _).2 ++ (OptionReader.level _ _).2 = [] ↔ _
  simp only [List.append_eq_nil_iff, OptionReader.path_snd_eq_nil_iff,
    OptionReader.level_snd_eq_nil_iff, and_assoc]

/-- The options of the command line are read from the records that are acceptable. -/
theorem resolve_eq_ok_iff : resolve (some input) = .ok o ↔ Acceptable input ∧ o.ReadFrom input := by
  show OptionReader.run .command _ input = .ok o ↔ _
  rw [OptionReader.run_eq_ok_iff, command_snd_eq_nil_iff, GeneratorOptions.generator_snd_eq_nil_iff]
  constructor
  · rintro ⟨isRecord, read, ⟨modulePath, name⟩, protocol, domain, out, level⟩
    exact ⟨⟨⟨isRecord, modulePath, name⟩, protocol, domain, out, level⟩,
      (command_fst_eq_iff level).mp read⟩
  · rintro ⟨⟨⟨isRecord, modulePath, name⟩, protocol, domain, out, level⟩, read⟩
    exact ⟨isRecord, (command_fst_eq_iff level).mpr read, ⟨modulePath, name⟩, protocol, domain, out,
      level⟩

end CommandOptions

/-! ## Writing records -/

namespace Value

variable {input : Value} {name : String} {given : Option String} {rule : String → Prop}

theorem permits_of_get? (h : input.get? name = given.map .text) :
    input.Permits name rule ↔ ∀ s ∈ given, rule s := by
  cases given <;> simp_all [Permits]

theorem text?_of_get? (h : input.get? name = given.map .text) : input.text? name = given := by
  cases given <;> simp_all [text?]

end Value

namespace GeneratorOptions

variable {input : Value} {o : GeneratorOptions}

/-- Options that have been read satisfy the rules, the defaults included. -/
theorem Acceptable.valid (h : Acceptable input) (read : o.ReadFrom input) : o.Valid where
  runtimeModule := by
    rw [read.runtimeModule]
    exact h.runtimeModule.getD (Text.isModulePath_iff.mp (by decide))
  generatorName := by
    rw [read.generatorName]
    refine h.generatorName.getD ?_
    unfold IsOneLine
    decide

theorem WrittenAs.readFrom (written : o.WrittenAs input) : o.ReadFrom input where
  runtimeModule := by rw [Value.text?_of_get? written.runtimeModule, Option.getD_some]
  generatorName := by rw [Value.text?_of_get? written.generatorName, Option.getD_some]

theorem WrittenAs.acceptable (written : o.WrittenAs input) (h : o.Valid) : Acceptable input where
  isRecord := written.isRecord
  runtimeModule := (Value.permits_of_get? written.runtimeModule).mpr fun _ same => by
    cases same
    exact h.runtimeModule
  generatorName := (Value.permits_of_get? written.generatorName).mpr fun _ same => by
    cases same
    exact h.generatorName

theorem record_writtenAs (o : GeneratorOptions) : o.WrittenAs o.record where
  isRecord := ⟨_, rfl⟩
  runtimeModule := rfl
  generatorName := rfl

/-- Valid options are read from the record that they are written as. -/
theorem Valid.resolve_record (h : o.Valid) : resolve (some o.record) = .ok o :=
  resolve_eq_ok_iff.mpr ⟨o.record_writtenAs.acceptable h, o.record_writtenAs.readFrom⟩

end GeneratorOptions

namespace CommandOptions

variable {input : Value} {o : CommandOptions}

/-- Options that have been read satisfy the rules, the defaults included. -/
theorem Acceptable.valid (h : Acceptable input) (read : o.ReadFrom input) : o.Valid where
  toValid := h.toAcceptable.valid read.toReadFrom
  protocolPath _ given := h.protocolPath.of_text? (read.protocolPath ▸ given)
  domainPath _ given := h.domainPath.of_text? (read.domainPath ▸ given)
  outPath _ given := h.outPath.of_text? (read.outPath ▸ given)

theorem WrittenAs.readFrom (written : o.WrittenAs input) : o.ReadFrom input where
  toReadFrom := written.toWrittenAs.readFrom
  protocolPath := (Value.text?_of_get? written.protocolPath).symm
  domainPath := (Value.text?_of_get? written.domainPath).symm
  outPath := (Value.text?_of_get? written.outPath).symm
  logLevel := by rw [Value.text?_of_get? written.logLevel, Option.getD_some]

theorem WrittenAs.acceptable (written : o.WrittenAs input) (h : o.Valid) : Acceptable input where
  toAcceptable := written.toWrittenAs.acceptable h.toValid
  protocolPath := (Value.permits_of_get? written.protocolPath).mpr h.protocolPath
  domainPath := (Value.permits_of_get? written.domainPath).mpr h.domainPath
  outPath := (Value.permits_of_get? written.outPath).mpr h.outPath
  logLevel := (Value.permits_of_get? written.logLevel).mpr fun word same => by
    cases same
    exact LogLevel.mem_words_iff.mpr ⟨_, LogLevel.ofText?_eq_some_iff.mpr rfl⟩

theorem record_writtenAs (o : CommandOptions) : o.WrittenAs o.record := by
  obtain ⟨generator, protocol, domain, out, level⟩ := o
  cases protocol <;> cases domain <;> cases out <;>
    exact ⟨⟨⟨_, rfl⟩, rfl, rfl⟩, rfl, rfl, rfl, rfl⟩

/-- Valid options are read from the record that they are written as. -/
theorem Valid.resolve_record (h : o.Valid) : resolve (some o.record) = .ok o :=
  resolve_eq_ok_iff.mpr ⟨o.record_writtenAs.acceptable h, o.record_writtenAs.readFrom⟩

end CommandOptions

/-! ## Checking options twice -/

/-- Generates the text of the module of two documents, with options still to be checked. -/
def generateTextFromDocuments (protocol domain : String) (options : Option Value) :
    Logged String := do
  let protocol ← Composition.generate.liftExcept (Document.parse protocol)
  let domain ← Composition.generate.liftExcept (Document.parse domain)
  let composition ← Composition.generate.liftExcept (Composition.compose protocol domain)
  composition.generateText options

/-- Checking options that are valid changes nothing about a generation. -/
theorem GeneratorOptions.Valid.generateTextFromDocuments_record {o : GeneratorOptions} (h : o.Valid)
    (protocol domain : String) :
    generateTextFromDocuments protocol domain (some o.record) =
      generateFromDocuments protocol domain o := by
  have checked (c : Composition) : c.generateText (some o.record) =
      c.generate o >>= fun m => pure m.text := by
    rw [Composition.generateText, h.resolve_record]
    rfl
  simp only [generateTextFromDocuments, generateFromDocuments, checked]

namespace CommandOptions

/-- Options are accepted exactly if they are a record in which each option is left out or is a text
that satisfies its rule; for the module path that is to be a word of a regular language. What is
read is what is given and the defaults, and it is read again from the record that it is written as.
The part of it that concerns the generation is accepted as it is, so that in a run a generation that
checks its options once more is the one without that check. -/
theorem accepted_once_for_all (input : Value) :
    ((∃ o, resolve (some input) = .ok o) ↔ Acceptable input) ∧
    (∀ path, Text.IsModulePath path ↔ path.toList ∈ Text.modulePaths) ∧
    (∀ o, resolve (some input) = .ok o →
      o.ReadFrom input ∧ resolve (some o.record) = .ok o ∧
        GeneratorOptions.resolve (some o.toGeneratorOptions.record) = .ok o.toGeneratorOptions) ∧
    ∀ arguments o, Command.chosen arguments = .ok o → ∀ protocol domain,
      generateTextFromDocuments protocol domain (some o.toGeneratorOptions.record) =
        generateFromDocuments protocol domain o.toGeneratorOptions := by
  refine ⟨⟨?_, fun acceptable => ?_⟩, fun path => Text.isModulePath_iff_mem_language,
    fun o read => ?_, fun arguments o chosen => ?_⟩
  · rintro ⟨o, read⟩
    exact (resolve_eq_ok_iff.mp read).1
  · exact ⟨_, resolve_eq_ok_iff.mpr
      ⟨acceptable, (command_fst_eq_iff acceptable.logLevel).mp rfl⟩⟩
  · obtain ⟨acceptable, given⟩ := resolve_eq_ok_iff.mp read
    have valid := acceptable.valid given
    exact ⟨given, valid.resolve_record, valid.toValid.resolve_record⟩
  · obtain ⟨record, -, read⟩ := bind_eq_ok.mp chosen
    obtain ⟨acceptable, given⟩ := resolve_eq_ok_iff.mp read
    exact (acceptable.valid given).toValid.generateTextFromDocuments_record

/-- Options with a relative module path, and with one that nobody asks for. -/
def relativeModule : Value :=
  .map [("runtimeModule", .text "..native.lib_2"), ("outPath", .text "a.py"),
    ("verbose", .bool true)]

/-- Options with a module path in which a name is missing. -/
def brokenModule : Value := .map [("runtimeModule", .text "native..lib")]

theorem accepted_once_for_all_relative :
    (∃ o, resolve (some relativeModule) = .ok o ∧ o.runtimeModule = "..native.lib_2" ∧
      o.generatorName = "wirebind" ∧ resolve (some o.record) = .ok o) ∧
    ¬ ∃ o, resolve (some brokenModule) = .ok o := by
  constructor
  · have read : resolve (some relativeModule) =
      .ok { runtimeModule := "..native.lib_2", outPath := some "a.py" } := rfl
    exact ⟨_, read, rfl, rfl, ((accepted_once_for_all relativeModule).2.2.1 _ read).2.1⟩
  · rw [(accepted_once_for_all brokenModule).1]
    intro acceptable
    obtain ⟨path, same, isPath⟩ := acceptable.runtimeModule _ rfl
    cases same
    have refused : Text.isModulePath "native..lib" = false := by decide
    rw [Text.isModulePath_iff.mpr isPath] at refused
    cases refused

end CommandOptions
end NativeBindings
