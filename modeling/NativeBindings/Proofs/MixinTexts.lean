import NativeBindings.Proofs.AddedMapping

/-!
# The two mixins

Both mixins of a module are written from the same signatures, so their texts differ by few words.
Which ones is a text with edits (`Edit`): the mixin whose methods block is its original, and the
mixin whose methods are awaited what the edits make of it.

* `textOf_mixinEdits`: both mixins are texts of the same edits.
* `changes_mixinEdits`: the class is renamed, and each method has a word put in before its
  definition and one before its submission.
* `definitionLines_mixinLines`: the lines of a mixin that begin a method.
* `Composition.generate_endsWith`: what the last message of a run reports.
* `Composition.mixins_correspond`: all of this for a generated text and the operations of the
  documents it is generated from.
-/
namespace NativeBindings

/-! ## Texts with edits -/

/-- A piece of a text with edits: a text that stays, a word put in before the text that is next, or
a text in the place of another. -/
inductive Edit where
  | keep (text : String)
  | insert (word next : String)
  | replace (old new : String)
  deriving DecidableEq, Repr

namespace Edit

def before : Edit → String
  | keep text => text
  | insert _ next => next
  | replace old _ => old

def after : Edit → String
  | keep text => text
  | insert word next => word ++ next
  | replace _ new => new

def isChange : Edit → Bool
  | keep _ => false
  | _ => true

def original (edits : List Edit) : String := String.join (edits.map before)

def revised (edits : List Edit) : String := String.join (edits.map after)

/-- The edits that change something, in order. -/
def changes (edits : List Edit) : List Edit := edits.filter isChange

theorem changes_append (edits edits' : List Edit) :
    changes (edits ++ edits') = changes edits ++ changes edits' := List.filter_append ..

end Edit

/-- The text of a convention, where the edits make methods awaitable. -/
def Convention.textOf : Convention → List Edit → String
  | .blocking => Edit.original
  | .awaitable => Edit.revised

theorem Convention.textOf_append (convention : Convention) (edits edits' : List Edit) :
    convention.textOf (edits ++ edits') = convention.textOf edits ++ convention.textOf edits' := by
  cases convention <;>
    simp only [textOf, Edit.original, Edit.revised, List.map_append, String.join_append]

/-! ## The edits of a mixin -/

/-- The text of a method, after an empty line, with the words that make it awaitable. -/
def MethodSignature.edits (m : MethodSignature) : List Edit :=
  [.keep "\n    ", .insert "async " "def ",
    .keep (s!"{m.name}(self, {m.parameter}: {m.parameterType}) -> {m.returnType}:" ++
      "\n        return "),
    .insert "await " "self._submit(",
    .keep (s!"\n            {m.member},\n            {m.submitted}," ++
      s!"\n            {m.eventWrapper.text},\n            {m.resultWrapper.text},\n        )\n")]

/-- The text of a mixin with the edits that make its methods awaitable. -/
def mixinEdits (methods : List MethodSignature) (operationEnum : String) : List Edit :=
  [.keep "class ", .replace "StateMachineMixin" "AsyncStateMachineMixin",
    .keep s!":\n    _submit: Callable[[{operationEnum}, Any, Any, Any], Any]\n"] ++
  methods.flatMap (·.edits) ++ [.keep "\n\n"]

namespace MethodSignature

variable (m : MethodSignature)

theorem textOf_edits (convention : Convention) :
    convention.textOf m.edits = Text.ofLines ("" :: m.lines convention) := by
  refine String.toList_inj.mp ?_
  cases convention <;>
    simp [Convention.textOf, Edit.original, Edit.revised, edits, Edit.before, Edit.after,
      Text.ofLines_eq_join, lines, Convention.beforeDefinition, Convention.beforeSubmission,
      String.toList_append, toString]

theorem changes_edits :
    Edit.changes m.edits = [.insert "async " "def ", .insert "await " "self._submit("] := rfl

end MethodSignature

section

variable (methods : List MethodSignature) (operationEnum : String)

theorem textOf_mixinEdits (convention : Convention) :
    convention.textOf (mixinEdits methods operationEnum) =
      Text.ofLines (mixinLines methods operationEnum convention) := by
  have each : convention.textOf (methods.flatMap (·.edits)) =
      Text.ofLines (methods.flatMap fun m => "" :: m.lines convention) := by
    induction methods with
    | nil => cases convention <;> rfl
    | cons m rest ih =>
      rw [List.flatMap_cons, List.flatMap_cons, convention.textOf_append, Text.ofLines_append,
        m.textOf_edits, ih]
  have opening : convention.textOf [.keep "class ",
      .replace "StateMachineMixin" "AsyncStateMachineMixin",
      .keep s!":\n    _submit: Callable[[{operationEnum}, Any, Any, Any], Any]\n"] =
      Text.ofLines [s!"class {convention.className}:",
        s!"    _submit: Callable[[{operationEnum}, Any, Any, Any], Any]"] := by
    refine String.toList_inj.mp ?_
    cases convention <;>
      simp [Convention.textOf, Edit.original, Edit.revised, Edit.before, Edit.after,
        Text.ofLines_eq_join, Convention.className, String.toList_append, toString]
  have closing : convention.textOf [.keep "\n\n"] = Text.ofLines ["", ""] := by
    cases convention <;> rfl
  rw [mixinEdits, mixinLines, convention.textOf_append, convention.textOf_append, each, opening,
    closing, Text.ofLines_append, Text.ofLines_append]

/-- What changes is the name of the class, and in each method the definition and the
submission. -/
theorem changes_mixinEdits : Edit.changes (mixinEdits methods operationEnum) =
    .replace "StateMachineMixin" "AsyncStateMachineMixin" ::
      methods.flatMap fun _ => [.insert "async " "def ", .insert "await " "self._submit("] := by
  have each : Edit.changes (methods.flatMap (·.edits)) =
      methods.flatMap fun _ => [.insert "async " "def ", .insert "await " "self._submit("] := by
    induction methods with
    | nil => rfl
    | cons m rest ih =>
      rw [List.flatMap_cons, List.flatMap_cons, Edit.changes_append, m.changes_edits, ih]
  rw [mixinEdits, Edit.changes_append, Edit.changes_append, each]
  exact List.append_nil _

end

/-! ## The methods of a mixin -/

/-- The line that begins the definition of a method. -/
def MethodSignature.definitionLine (m : MethodSignature) (convention : Convention) : String :=
  s!"    {convention.beforeDefinition}def {m.name}(self, {m.parameter}: {m.parameterType}) " ++
    s!"-> {m.returnType}:"

def definitionLines (convention : Convention) (lines : List String) : List String :=
  lines.filter fun line =>
    s!"    {convention.beforeDefinition}def ".toList.isPrefixOf line.toList

theorem definitionLines_append (convention : Convention) (lines lines' : List String) :
    definitionLines convention (lines ++ lines') =
      definitionLines convention lines ++ definitionLines convention lines' :=
  List.filter_append ..

/-- Of the lines of a method, the first begins its definition. -/
theorem MethodSignature.definitionLines_lines (m : MethodSignature) (convention : Convention) :
    definitionLines convention ("" :: m.lines convention) = [m.definitionLine convention] := by
  cases convention <;>
    simp [definitionLines, lines, definitionLine, Convention.beforeDefinition,
      Convention.beforeSubmission, String.toList_append, toString]

/-- Each method of a mixin is defined once, in order. -/
theorem definitionLines_mixinLines (methods : List MethodSignature) (operationEnum : String)
    (convention : Convention) :
    definitionLines convention (mixinLines methods operationEnum convention) =
      methods.map (·.definitionLine convention) := by
  have each : definitionLines convention (methods.flatMap fun m => "" :: m.lines convention) =
      methods.map (·.definitionLine convention) := by
    induction methods with
    | nil => rfl
    | cons m rest ih =>
      rw [List.flatMap_cons, definitionLines_append, m.definitionLines_lines, ih, List.map_cons,
        List.singleton_append]
  have opening : definitionLines convention [s!"class {convention.className}:",
      s!"    _submit: Callable[[{operationEnum}, Any, Any, Any], Any]"] = [] := by
    cases convention <;>
      simp [definitionLines, Convention.beforeDefinition, Convention.className,
        String.toList_append, toString]
  have closing : definitionLines convention ["", ""] = [] := by
    cases convention <;> rfl
  rw [mixinLines, definitionLines_append, definitionLines_append, each, opening, closing,
    List.nil_append, List.append_nil]

/-! ## The mixins in a module -/

namespace BindingModule

def mixin (m : BindingModule) (convention : Convention) : List String :=
  mixinLines m.methods m.operationEnum convention

def front (m : BindingModule) : List (List String) := m.body ++ [m.entryPoints.lines]

theorem blocks_eq_mixins (m : BindingModule) :
    m.blocks = m.front ++ [m.mixin .awaitable, m.mixin .blocking] := rfl

/-- The text ends with both mixins. Only the blanks after the last one are cut off. -/
theorem text_eq_mixins (m : BindingModule) : m.text =
    Text.ofLines m.front.flatten ++ Text.ofLines (m.mixin .awaitable) ++
      Text.trimEnd (Text.ofLines (m.mixin .blocking)) ++ "\n" := by
  have solid : Text.isBlankString (Text.ofLines (m.mixin .blocking)) = false := by
    have opening : Text.isBlankString "class StateMachineMixin:" = false := rfl
    simp only [mixin, mixinLines, List.cons_append, Text.ofLines_cons, Text.isBlankString_append]
    show (Text.isBlankString "class StateMachineMixin:" && _ && _) = false
    rw [opening, Bool.false_and, Bool.false_and]
  rw [text, Text.join_ofLines, blocks_eq_mixins, List.flatten_append, List.flatten_cons,
    List.flatten_cons, List.flatten_nil, List.append_nil, Text.ofLines_append, Text.ofLines_append,
    ← String.append_assoc, Text.trimEnd_append solid]

/-- Both mixins of a module define one method for each operation, in order and under distinct names.
The text whose methods are awaited is made of the other by renaming the class and by putting a word
before the definition and one before the submission of each method. -/
structure MixinsFor (m : BindingModule) (operations : List Operation) : Prop where
  defined : ∀ convention, List.Forall₂ (fun (o : Operation) line => ∃ rest,
    line = s!"    {convention.beforeDefinition}def {o.name}(self, {o.parameter}: " ++ rest)
      operations (definitionLines convention (m.mixin convention))
  named : m.methods.map (·.name) = operations.map (·.name)
  distinct : (m.methods.map (·.name)).Nodup
  original : Edit.original (mixinEdits m.methods m.operationEnum) =
    Text.ofLines (m.mixin .blocking)
  revised : Edit.revised (mixinEdits m.methods m.operationEnum) =
    Text.ofLines (m.mixin .awaitable)
  changes : Edit.changes (mixinEdits m.methods m.operationEnum) =
    .replace "StateMachineMixin" "AsyncStateMachineMixin" ::
      m.methods.flatMap fun _ => [.insert "async " "def ", .insert "await " "self._submit("]
  method : ∀ s ∈ m.methods, Edit.original s.edits = Text.ofLines ("" :: s.lines .blocking) ∧
    Edit.revised s.edits = Text.ofLines ("" :: s.lines .awaitable) ∧
    Edit.changes s.edits = [.insert "async " "def ", .insert "await " "self._submit("]

end BindingModule

/-! ## The last message -/

namespace Logged

variable {α β : Type} {right : α → LogEntry (List (String × Detail)) → Prop}

/-- A run of the step that has a result ends with a message that is right for it. -/
def EndsWith (step : Logged α) (right : α → LogEntry (List (String × Detail)) → Prop) : Prop :=
  ∀ before a log, (ExceptT.run step).run before = (.ok a, log) →
    ∃ entries last, log = entries ++ [last] ∧ right a last

theorem EndsWith.after {step : Logged β} {next : β → Logged α}
    (rest : ∀ b, EndsWith (next b) right) : EndsWith (step >>= next) right := by
  intro before a log ran
  obtain ⟨b, middle, -, ran⟩ := run_bind_eq_ok.mp ran
  exact rest b middle a log ran

theorem endsWith_log {severity : Severity} {message : String} {details : List (String × Detail)}
    {a : α} (h : right a ⟨severity, message, some details⟩) :
    EndsWith (log severity message details >>= fun _ => pure a) right := by
  intro before a' log ran
  cases ran
  exact ⟨before, _, rfl, h⟩

end Logged

namespace Composition

variable {c : Composition}

open Logged in
/-- The last message of a run reports the methods of both mixins together. -/
theorem generate_endsWith (c : Composition) (options : GeneratorOptions) :
    (c.generate options).EndsWith fun m last => last.severity = .info ∧
      ∃ details, last.details = some details ∧
        details.lookup "methods" = some (.number (2 * m.methods.length)) := by
  refine .after fun mappings => .after fun _ => .after fun definitions => .after fun domain => ?_
  refine .after fun _ => .after fun records => .after fun _ => .after fun bindings => ?_
  refine .after fun _ => .after fun entryPoints => .after fun operationEnum => ?_
  refine .after fun methods => .after fun _ => endsWith_log ⟨rfl, _, rfl, ?_⟩
  show some (Detail.number (methods.length * 2)) = _
  rw [Int.mul_comm]

/-- A text is generated from the module that is generated, and with the same log. -/
theorem runLog_generateText_eq_ok {options : Option Value} {text : String}
    {log : List (LogEntry (List (String × Detail)))}
    (generated : (c.generateText options).runLog = (.ok text, log)) :
    ∃ resolved m, GeneratorOptions.resolve options = .ok resolved ∧
      (c.generate resolved).runLog = (.ok m, log) ∧ text = m.text := by
  obtain ⟨resolved, before, read, generated⟩ := Logged.run_bind_eq_ok.mp generated
  obtain ⟨valid, rfl⟩ := Prod.mk.inj read
  obtain ⟨m, entries, ran, given⟩ := Logged.run_bind_eq_ok.mp generated
  obtain ⟨same, rfl⟩ := Prod.mk.inj given
  exact ⟨resolved, m, valid, ran, (Except.ok.inj same).symm⟩

/-- The methods of a composition's module are its operations but the heartbeat. -/
theorem Sound.mixinsFor (sound : c.Sound) {entries : List NamedDeclaration} {m : BindingModule}
    (passes : c.Passes entries m) : m.MixinsFor (MethodSignature.exposed c.operations) := by
  obtain ⟨operationEnum, -, -, all⟩ := passes.methods
  have named : m.methods.map (·.name) = (MethodSignature.exposed c.operations).map (·.name) :=
    map_eq_of_mapM all fun _ _ _ built => (MethodSignature.build_eq_ok built).2.1
  constructor
  case defined =>
    intro convention
    rw [BindingModule.mixin, definitionLines_mixinLines, List.forall₂_map_right_iff]
    refine (mapM_eq_ok.mp all).imp fun o s built => ?_
    obtain ⟨-, name, parameter, -⟩ := MethodSignature.build_eq_ok built
    refine ⟨s!"{s.parameterType}) -> {s.returnType}:", String.toList_inj.mp ?_⟩
    simp [MethodSignature.definitionLine, name, parameter, toString, String.toList_append]
  case named => exact named
  case distinct =>
    rw [named]
    exact sound.operationsDistinct.sublist (List.filter_sublist.map _)
  case original => exact textOf_mixinEdits _ _ .blocking
  case revised => exact textOf_mixinEdits _ _ .awaitable
  case changes => exact changes_mixinEdits _ _
  case method =>
    exact fun s _ => ⟨s.textOf_edits .blocking, s.textOf_edits .awaitable, s.changes_edits⟩

/-- A generated text ends with two mixins. They define one method for every operation but the
heartbeat, those of the protocol document first, and differ as their conventions do. The last
message reports the methods of both together. -/
theorem mixins_correspond {protocol domain : Document} {options : Option Value} {text : String}
    {log : List (LogEntry (List (String × Detail)))} (composed : compose protocol domain = .ok c)
    (generated : (c.generateText options).runLog = (.ok text, log)) :
    ∃ (resolved : GeneratorOptions) (m : BindingModule) (front : List (List String)),
      GeneratorOptions.resolve options = .ok resolved ∧
      (c.generate resolved).runLog = (.ok m, log) ∧
      m.blocks = front ++ [m.mixin .awaitable, m.mixin .blocking] ∧
      text = Text.ofLines front.flatten ++ Text.ofLines (m.mixin .awaitable) ++
        Text.trimEnd (Text.ofLines (m.mixin .blocking)) ++ "\n" ∧
      m.MixinsFor ((protocol.operations ++ domain.operations).filter (·.name != "pulse")) ∧
      ∃ entries last details, log = entries ++ [last] ∧ last.severity = .info ∧
        last.details = some details ∧ ∀ convention, details.lookup "methods" =
          some (.number (2 * (definitionLines convention (m.mixin convention)).length)) := by
  obtain ⟨made, sound⟩ := compose_eq_ok_iff.mp composed
  obtain ⟨resolved, m, valid, ran, rfl⟩ := runLog_generateText_eq_ok generated
  obtain ⟨_, passes⟩ := passes_of_generate (congrArg Prod.fst ran)
  have mixins := sound.mixinsFor passes
  rw [MethodSignature.exposed, made.operations] at mixins
  obtain ⟨entries, last, logged, info, details, detailed, reported⟩ :=
    generate_endsWith c resolved [] m log ran
  refine ⟨resolved, m, m.front, valid, ran, m.blocks_eq_mixins, m.text_eq_mixins, mixins,
    entries, last, details, logged, info, detailed, fun convention => ?_⟩
  rw [BindingModule.mixin, definitionLines_mixinLines, List.length_map]
  exact reported

/-- A protocol document with the heartbeat and an operation of its own. -/
def beatingProtocol : Document where
  metadata := ⟨"wire", 1, none⟩
  types := [⟨"op_t", .enum 8 [⟨"pulse", 0⟩, ⟨"find", 1⟩, ⟨"create", 2⟩]⟩,
    ⟨"packet_t", .struct .cAbi [⟨"data", .pointer .untyped true, false⟩]⟩]
  mappings := [⟨"op_t", "Op", none⟩, ⟨"packet_t", "Packet", none⟩]
  operations := [⟨"pulse", .single, .void, .void, "beat"⟩,
    ⟨"find", .single, .int 128 false, .int 128 false, "id"⟩]
  client := some ⟨"lib", "wire", ⟨"op_t", "op_t", "packet_t", "op_t"⟩⟩

/-- A document with an operation of the domain. -/
def creatingDomain : Document where
  metadata := ⟨"domain", 1, none⟩
  types := [⟨"account_t", .struct .cAbi [⟨"id", .int 128 false, false⟩]⟩]
  mappings := [⟨"account_t", "Account", none⟩]
  operations := [⟨"create", .batch, .ref "account_t", .int 128 false, "accounts"⟩]

theorem mixins_correspond_beating : ∃ c text log, compose beatingProtocol creatingDomain = .ok c ∧
    (c.generateText none).runLog = (.ok text, log) ∧ ∃ m : BindingModule,
      m.methods.map (·.name) = ["find", "create"] ∧
      Edit.changes (mixinEdits m.methods m.operationEnum) =
        [.replace "StateMachineMixin" "AsyncStateMachineMixin",
          .insert "async " "def ", .insert "await " "self._submit(",
          .insert "async " "def ", .insert "await " "self._submit("] ∧
      ∃ entries last details, log = entries ++ [last] ∧ last.details = some details ∧
        details.lookup "methods" = some (.number 4) := by
  obtain ⟨resolved, m, front, -, -, -, -, mixins, entries, last, details, logged, -, detailed,
    reported⟩ := @mixins_correspond _ beatingProtocol creatingDomain none _ _ rfl rfl
  have two : (definitionLines .blocking (m.mixin .blocking)).length = 2 :=
    (mixins.defined .blocking).length_eq.symm
  have four := reported .blocking
  rw [two] at four
  obtain ⟨find, create, same⟩ : ∃ find create, m.methods = [find, create] :=
    List.length_eq_two.mp ((List.length_map _).symm.trans (congrArg List.length mixins.named))
  have changes := mixins.changes
  rw [same] at changes
  refine ⟨_, _, _, rfl, rfl, m, mixins.named, ?_, entries, last, details, logged, detailed, four⟩
  rw [same]
  exact changes

end Composition
end NativeBindings
