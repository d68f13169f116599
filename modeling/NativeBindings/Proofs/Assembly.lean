import NativeBindings.Module.Generate
import NativeBindings.Proofs.Outcome

/-!
# Generation without its messages

Generating a module logs as it goes, but no step reads the log. `Composition.assemble` is the same
sequence of passes without the messages, and it has the same outcome (`runLog_generate`). A module
that is generated is the result of each pass (`Composition.Passes`, `passes_of_generate`).
-/
namespace NativeBindings

variable {α β : Type}

/-! ## Steps that do not read the log -/

namespace Logged

/-- A fault ends a run; a result is passed on with the log so far. -/
theorem run_bind (step : Logged α) (next : α → Logged β)
    (before : List (LogEntry (List (String × Detail)))) :
    (ExceptT.run (step >>= next)).run before = match (ExceptT.run step).run before with
      | (.error fault, log) => (.error fault, log)
      | (.ok a, log) => (ExceptT.run (next a)).run log := by
  rw [ExceptT.run_bind, StateT.run_bind]
  cases (ExceptT.run step).run before with
  | mk result log => cases result <;> rfl

/-- Two steps have a result if the first has one and the second, going on from there, has this. -/
theorem run_bind_eq_ok {step : Logged α} {next : α → Logged β} {b : β}
    {before log : List (LogEntry (List (String × Detail)))} :
    (ExceptT.run (step >>= next)).run before = (.ok b, log) ↔
      ∃ a middle, (ExceptT.run step).run before = (.ok a, middle) ∧
        (ExceptT.run (next a)).run middle = (.ok b, log) := by
  rw [run_bind]
  cases (ExceptT.run step).run before with
  | mk result middle =>
    cases result with
    | error fault => exact ⟨nofun, fun ⟨_, _, faulty, _⟩ => nomatch faulty⟩
    | ok a =>
      refine ⟨fun h => ⟨a, middle, rfl, h⟩, ?_⟩
      rintro ⟨_, _, same, h⟩
      cases same
      exact h

/-- Whatever was logged before, the step has this outcome. -/
def Gives (step : Logged α) (outcome : Except Fault α) : Prop :=
  ∀ before, ((ExceptT.run step).run before).1 = outcome

theorem gives_pure (a : α) : Gives (pure a) (.ok a) := fun _ => rfl

theorem gives_liftExcept (outcome : Except Fault α) :
    Gives (Composition.generate.liftExcept outcome) outcome := fun _ => rfl

theorem gives_log (severity : Severity) (message : String) (details : List (String × Detail)) :
    Gives (log severity message details) (.ok ()) := fun _ => rfl

theorem Gives.bind {step : Logged α} {outcome : Except Fault α} {next : α → Logged β}
    {nextOutcome : α → Except Fault β} (first : Gives step outcome)
    (rest : ∀ a, Gives (next a) (nextOutcome a)) :
    Gives (step >>= next) (outcome >>= nextOutcome) := by
  intro before
  have same := first before
  rw [run_bind]
  cases ran : (ExceptT.run step).run before with
  | mk result log =>
    obtain rfl : result = outcome := by simpa [ran] using same
    cases result with
    | error fault => rfl
    | ok a => exact rest a log

/-- A message before a step changes nothing about its outcome. -/
theorem Gives.afterLog {severity : Severity} {message : String} {details : List (String × Detail)}
    {step : Logged α} {outcome : Except Fault α} (h : Gives step outcome) :
    Gives (log severity message details >>= fun _ => step) outcome :=
  (gives_log severity message details).bind fun _ => h

end Logged

/-! ## The passes -/

namespace Composition

/-- Generates the module of a composition, without messages. -/
def assemble (c : Composition) (options : GeneratorOptions) : Except Fault BindingModule := do
  let mappings ← c.names.all
  let definitions ← mappings.mapM (·.definition? c.names)
  let domain ← c.names.domainEntries
  let records ← (domain.filter (·.isStruct)).mapM (·.record c.names)
  let bindings ← (mappings.filter (·.isStruct)).mapM (·.binding c.names)
  let entryPoints ← c.entryPoints
  let operationEnum ← c.operationEnum
  let methods ← MethodSignature.buildAll c.names operationEnum c.operations
  return { preamble := { generatorName := options.generatorName
                         runtimeModule := options.runtimeModule
                         library := c.client.library }
           definitions := definitions.filterMap id, records, bindings, entryPoints
           operationEnum := operationEnum.name, methods }

open Logged in
theorem generate_gives (c : Composition) (options : GeneratorOptions) :
    (c.generate options).Gives (c.assemble options) := by
  refine (gives_liftExcept _).bind fun mappings => .afterLog ?_
  refine (gives_liftExcept _).bind fun definitions => ?_
  refine (gives_liftExcept _).bind fun domain => .afterLog ?_
  refine (gives_liftExcept _).bind fun records => .afterLog ?_
  refine (gives_liftExcept _).bind fun bindings => .afterLog ?_
  refine (gives_liftExcept _).bind fun entryPoints => ?_
  refine (gives_liftExcept _).bind fun operationEnum => ?_
  refine (gives_liftExcept _).bind fun methods => .afterLog (.afterLog ?_)
  exact gives_pure _

/-- The messages of a run have no part in its outcome. -/
theorem runLog_generate (c : Composition) (options : GeneratorOptions) :
    (c.generate options).runLog.1 = c.assemble options := generate_gives c options []

/-- Once the options have been read, the text is that of the module that is assembled. -/
theorem runLog_generateText_bind (c : Composition) (options : Option Value) :
    (c.generateText options).runLog.1 =
      GeneratorOptions.resolve options >>= fun resolved => (·.text) <$> c.assemble resolved := by
  have steps : (c.generateText options).Gives (do
      let resolved ← GeneratorOptions.resolve options
      return (← c.assemble resolved).text) :=
    (Logged.gives_liftExcept _).bind fun resolved =>
      (generate_gives c resolved).bind fun m => Logged.gives_pure m.text
  rw [Logged.runLog, steps []]
  refine congrArg _ (funext fun resolved => ?_)
  cases c.assemble resolved <;> rfl

/-- With valid options, the text is that of the module that is generated. -/
theorem runLog_generateText (c : Composition) {options : Option Value} {resolved : GeneratorOptions}
    (valid : GeneratorOptions.resolve options = .ok resolved) :
    (c.generateText options).runLog.1 = (·.text) <$> c.assemble resolved := by
  rw [runLog_generateText_bind, valid]
  rfl

/-- The mappings of a composition, with their declarations, and the results of the passes over
them. -/
structure Passes (c : Composition) (entries : List NamedDeclaration) (m : BindingModule) :
    Prop where
  listed : c.names.all = .ok entries
  definitions : ∃ definitions, entries.mapM (·.definition? c.names) = .ok definitions ∧
    m.definitions = definitions.filterMap id
  records : ∃ domain, c.names.domainEntries = .ok domain ∧
    (domain.filter (·.isStruct)).mapM (·.record c.names) = .ok m.records
  bindings : (entries.filter (·.isStruct)).mapM (·.binding c.names) = .ok m.bindings
  entryPoints : c.entryPoints = .ok m.entryPoints
  methods : ∃ operationEnum, c.operationEnum = .ok operationEnum ∧
    m.operationEnum = operationEnum.name ∧
    MethodSignature.buildAll c.names operationEnum c.operations = .ok m.methods

/-- Every pass over a generated module's composition succeeded. -/
theorem passes_of_generate {c : Composition} {options : GeneratorOptions} {m : BindingModule}
    (h : (c.generate options).runLog.1 = .ok m) : ∃ entries, c.Passes entries m := by
  simp only [runLog_generate, assemble, bind_eq_ok, pure_eq_ok] at h
  obtain ⟨entries, hentries, definitions, hdefinitions, domain, hdomain, records, hrecords,
    bindings, hbindings, entryPoints, hentryPoints, operationEnum, hoperationEnum, methods,
    hmethods, rfl⟩ := h
  exact ⟨entries, {
    listed := hentries
    definitions := ⟨definitions, hdefinitions, rfl⟩
    records := ⟨domain, hdomain, hrecords⟩
    bindings := hbindings
    entryPoints := hentryPoints
    methods := ⟨operationEnum, hoperationEnum, rfl, hmethods⟩ }⟩

/-- The beginning of a generated module is that of the options and the client's library. -/
theorem preamble_of_generate {c : Composition} {options : GeneratorOptions} {m : BindingModule}
    (h : (c.generate options).runLog.1 = .ok m) :
    m.preamble = ⟨options.generatorName, options.runtimeModule, c.client.library⟩ := by
  simp only [runLog_generate, assemble, bind_eq_ok, pure_eq_ok] at h
  obtain ⟨-, -, -, -, -, -, -, -, -, -, -, -, -, -, -, -, rfl⟩ := h
  rfl

end Composition
end NativeBindings
