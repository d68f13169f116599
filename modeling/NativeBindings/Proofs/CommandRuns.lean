import NativeBindings.Command.Run
import NativeBindings.Proofs.Assembly
import NativeBindings.Proofs.TreeOperations

/-!
# Runs take full effect or none

Whatever the arguments are, whatever is on the disk and wherever a run fails, a run that ends with
an error has left every file as it was, and one that does not has put the generated module where it
belongs and changed nothing else (`run_all_or_nothing`).

**The disk (`Disk.OnTree`, what is asked of it).** Reading a file or a built-in schema, creating
directories, writing and moving may fail at any time, for whatever reason. What is read is there, a
write or a move that fails has not touched a file, and one that does not fail does what it does on a
tree of files. Removing a file is not allowed to fail: it always takes effect. Drafts are named
after the path they are for and a number, and no file is there yet.

**The log.** Generating reports no errors (`generateFromDocuments_quiet`), so the one error in the
log of a run that fails is the one that ended it.
-/
namespace NativeBindings

variable {σ α β : Type}

/-! ## Steps -/

/-- From a state, the step reaches a result and a state of which `post` holds. -/
def Reaches (step : StateM σ α) (s : σ) (post : α → σ → Prop) : Prop :=
  post (step.run s).1 (step.run s).2

namespace Reaches

variable {step : StateM σ α} {next : α → StateM σ β} {s : σ}

theorem pure {a : α} {post : α → σ → Prop} (h : post a s) : Reaches (pure a) s post := h

theorem bind {middle : α → σ → Prop} {post : β → σ → Prop} (first : Reaches step s middle)
    (rest : ∀ a s', middle a s' → Reaches (next a) s' post) : Reaches (step >>= next) s post :=
  rest _ _ first

theorem pureBind {a : α} {post : β → σ → Prop} (h : Reaches (next a) s post) :
    Reaches (Pure.pure a >>= next) s post := h

theorem imp {post post' : α → σ → Prop} (h : Reaches step s post)
    (weaker : ∀ a s', post a s' → post' a s') : Reaches step s post' := weaker _ _ h

end Reaches

/-! ## Disks and trees -/

/-- Where the draft of a file stands. -/
def draftPath (path : String) (number : Nat) : String := s!"{path}.{number}.tmp"

theorem utf8ByteSize_le_draftPath (path : String) (number : Nat) :
    path.utf8ByteSize ≤ (draftPath path number).utf8ByteSize := by
  have whole : draftPath path number = path ++ ("." ++ toString number ++ ".tmp") := by
    show path ++ "." ++ toString number ++ ".tmp" = _
    simp only [String.append_assoc]
  rw [whole, String.utf8ByteSize_append]
  exact Nat.le_add_right _ _

/-- The step changes the tree like `change`, or fails and leaves the tree as it was. -/
def ChangesLike (tree : σ → FileTree) (step : StateM σ (Except DiskError Unit))
    (change : FileTree → Except DiskError FileTree) : Prop :=
  ∀ s, Reaches step s fun result s' => match result with
    | .ok () => change (tree s) = .ok (tree s')
    | .error _ => tree s' = tree s

/-- A disk whose files are those of a tree, beside which the built-in schemas are installed.
Reading, creating directories and naming a draft change no file, and what is read is there. -/
structure Disk.OnTree (disk : Disk (StateM σ)) (tree : σ → FileTree) (number : Nat) : Prop where
  read : ∀ path s, Reaches (disk.read path) s fun result s' =>
    tree s' = tree s ∧ ∀ text, result = .ok text → (tree s).read path = .ok text
  readBuiltin : ∀ schema s, Reaches (disk.readBuiltin schema) s fun result s' =>
    tree s' = tree s ∧ ∀ text, result = .ok text → text = schema.text
  makeDirectories : ∀ path s, Reaches (disk.makeDirectories path) s fun _ s' =>
    (tree s').files = (tree s).files
  write : ∀ path text, ChangesLike tree (disk.write path text) (·.write path text)
  rename : ∀ source target, ChangesLike tree (disk.rename source target) (·.rename source target)
  remove : ∀ path s, Reaches (disk.remove path) s fun _ s' => tree s' = (tree s).remove path
  beside : ∀ path s, Reaches (disk.beside path) s fun draft s' =>
    draft = draftPath path number ∧ s = s'

theorem FileTree.change_changesLike (step : FileTree → Except DiskError FileTree) :
    ChangesLike (fun tree => tree) (FileTree.change step) step := by
  intro tree
  unfold Reaches FileTree.change
  cases stepped : step tree <;> simp [StateT.run, stepped]

/-- The tree in memory is such a disk. -/
theorem FileTree.disk_onTree (number : Nat) :
    (FileTree.disk number).OnTree (fun tree => tree) number where
  read path tree := ⟨rfl, fun _ h => h⟩
  readBuiltin schema tree := ⟨rfl, fun _ h => (Except.ok.inj h).symm⟩
  makeDirectories path tree := by
    have created := FileTree.change_changesLike (·.makeDirectories path) tree
    refine created.imp fun result next made => ?_
    cases result with
    | ok _ => exact FileTree.files_makeDirectories made
    | error e => exact congrArg FileTree.files made
  write path text := FileTree.change_changesLike _
  rename source target := FileTree.change_changesLike _
  remove path tree := rfl
  beside path tree := ⟨rfl, rfl⟩

/-- Every file is as it was. -/
def FileTree.SameFiles (before after : FileTree) : Prop :=
  ∀ place, after.file? place = before.file? place

variable {disk : Disk (StateM σ)} {tree : σ → FileTree} {number : Nat}

/-- A file is replaced, or every file is as it was. -/
theorem Disk.OnTree.replaceFile (onTree : disk.OnTree tree number) (path text : String) (s : σ)
    (free : (tree s).file? (TreePath.ofText (draftPath path number)) = none) :
    Reaches (disk.replaceFile path text) s fun result s' => match result with
      | .ok () => (tree s').read path = .ok text ∧
          ∀ place, place ≠ TreePath.ofText path → (tree s').file? place = (tree s).file? place
      | .error _ => (tree s).SameFiles (tree s') := by
  refine .bind (onTree.makeDirectories (parentPath path) s) fun result s₁ made => ?_
  have kept (place : TreePath) : (tree s₁).file? place = (tree s).file? place :=
    congrArg (List.lookup place) made
  have stillFree : (tree s₁).file? (TreePath.ofText (draftPath path number)) = none := by
    rw [kept, free]
  cases result with
  | error e => exact .pure kept
  | ok _ =>
    refine .bind (onTree.beside path s₁) ?_
    rintro draft _ ⟨rfl, rfl⟩
    refine .bind (onTree.write _ text s₁) fun result s₂ written => ?_
    cases result with
    | error e =>
      -- Nothing was written, so there is nothing at the draft's place that removing it could take.
      refine .pureBind (.bind (onTree.remove _ s₂) fun _ s₃ removed => .pure fun place => ?_)
      rw [removed, written, FileTree.file?_remove_of_free stillFree, kept]
    | ok _ =>
      refine .bind (onTree.rename _ path s₂) fun result s₃ moved => ?_
      cases result with
      | ok _ =>
        obtain ⟨holds, others⟩ := FileTree.read_of_write_rename written moved stillFree
          (utf8ByteSize_le_draftPath path number)
        exact .pure ⟨holds, fun place ne => (others place ne).trans (kept place)⟩
      | error e =>
        -- The draft is still where it was written, and its path still leads there.
        refine .bind (onTree.remove _ s₃) fun _ s₄ removed => .pure fun place => ?_
        rw [removed, moved, FileTree.file?_remove_of_write written stillFree, kept]

/-! ## Messages -/

namespace Logged

/-- The step reports no errors. -/
def Quiet (step : Logged α) : Prop :=
  ∀ before, (∀ entry ∈ before, entry.severity ≠ .error) →
    ∀ entry ∈ ((ExceptT.run step).run before).2, entry.severity ≠ .error

theorem quiet_pure (a : α) : Quiet (pure a) := fun _ h => h

theorem quiet_liftExcept (outcome : Except Fault α) :
    Quiet (Composition.generate.liftExcept outcome) := fun _ h => h

theorem quiet_log {severity : Severity} (h : severity ≠ .error) (message : String)
    (details : List (String × Detail)) : Quiet (log severity message details) := by
  intro before quiet entry mem
  rcases List.mem_append.mp mem with old | new
  · exact quiet entry old
  · rw [List.mem_singleton.mp new]
    exact h

theorem Quiet.bind {step : Logged α} {next : α → Logged β} (first : Quiet step)
    (rest : ∀ a, Quiet (next a)) : Quiet (step >>= next) := by
  intro before quiet
  have kept := first before quiet
  rw [run_bind]
  cases ran : (ExceptT.run step).run before with
  | mk result log =>
    rw [ran] at kept
    cases result with
    | error fault => exact kept
    | ok a => exact rest a log kept

end Logged

open Logged in
theorem Composition.generate_quiet (c : Composition) (options : GeneratorOptions) :
    (c.generate options).Quiet := by
  have debug (message : String) (details : List (String × Detail)) :
      Quiet (log .debug message details) := quiet_log (by decide) message details
  have info (message : String) (details : List (String × Detail)) :
      Quiet (log .info message details) := quiet_log (by decide) message details
  refine (quiet_liftExcept _).bind fun mappings => (debug _ _).bind fun _ => ?_
  refine (quiet_liftExcept _).bind fun definitions => ?_
  refine (quiet_liftExcept _).bind fun domain => (debug _ _).bind fun _ => ?_
  refine (quiet_liftExcept _).bind fun records => (debug _ _).bind fun _ => ?_
  refine (quiet_liftExcept _).bind fun bindings => (debug _ _).bind fun _ => ?_
  refine (quiet_liftExcept _).bind fun entryPoints => ?_
  refine (quiet_liftExcept _).bind fun operationEnum => ?_
  refine (quiet_liftExcept _).bind fun methods => (debug _ _).bind fun _ => ?_
  exact (info _ _).bind fun _ => quiet_pure _

open Logged in
theorem generateFromDocuments_quiet (protocol domain : String) (options : GeneratorOptions) :
    (generateFromDocuments protocol domain options).Quiet := by
  refine (quiet_liftExcept _).bind fun protocol => (quiet_liftExcept _).bind fun domain => ?_
  refine (quiet_liftExcept _).bind fun c => (c.generate_quiet options).bind fun m => ?_
  exact quiet_pure _

/-! ## Runs -/

/-- The text of the document that a path chooses: without one, a built-in schema. -/
def FileTree.document (tree : FileTree) (path : Option String) (schema : BuiltinSchema) :
    Except DiskError String :=
  match path with
  | none => .ok schema.text
  | some path => tree.read path

namespace Command

/-- The options that arguments choose. -/
def chosen (arguments : List String) : Except Fault CommandOptions :=
  Arguments.parse arguments >>= fun options => CommandOptions.resolve (some options)

/-- The errors in the log of a run. -/
def Outcome.errors (outcome : Outcome) : List Message :=
  outcome.log.filter (·.severity == .error)

/-- Nothing has come of a run but one error. Every file is as it was, so no draft is left. -/
structure Undone (before after : FileTree) (outcome : Outcome) : Prop where
  output : outcome.output = ""
  files : before.SameFiles after
  error : ∃ error, outcome.errors = [error]

/-- The text has been written to the standard output, or to a file if there is a path. -/
def Delivered (text : String) (before after : FileTree) (output : String) : Option String → Prop
  | none => output = text ∧ before.SameFiles after
  | some path => output = "" ∧ after.read path = .ok text ∧
      ∀ place, place ≠ TreePath.ofText path → after.file? place = before.file? place

/-- What is generated from the documents that were there has been delivered. -/
structure Done (arguments : List String) (before after : FileTree) (outcome : Outcome) : Prop where
  errors : outcome.errors = []
  delivered : ∃ options protocol domain text, chosen arguments = .ok options ∧
    before.document options.protocolPath .protocol = .ok protocol ∧
    before.document options.domainPath .domain = .ok domain ∧
    (generateFromDocuments protocol domain options.toGeneratorOptions).runLog.1 = .ok text ∧
    Delivered text before after outcome.output options.outPath

variable {before after : FileTree} {options : CommandOptions} {log : List Message}

theorem undone_failure (same : before.SameFiles after) (level : LogLevel) {error : Message}
    (quiet : ∀ entry ∈ log, entry.severity ≠ .error) (isError : error.severity = .error) :
    Undone before after (.failure level log error) where
  output := rfl
  files := same
  error := by
    refine ⟨error, ?_⟩
    have others : log.filter (·.severity == .error) = [] := by simpa using quiet
    simp [Outcome.errors, Outcome.failure, others, isError]

theorem readDocument_onTree (onTree : disk.OnTree tree number) (path : Option String)
    (schema : BuiltinSchema) (s : σ) :
    Reaches (readDocument disk path schema) s fun result s' => tree s' = tree s ∧
      ∀ text, result = .ok text → (tree s).document path schema = .ok text := by
  cases path with
  | none =>
    refine (onTree.readBuiltin schema s).imp fun result s' ⟨kept, installed⟩ => ⟨kept, ?_⟩
    intro text h
    rw [installed text h]
    rfl
  | some path => exact onTree.read path s

theorem readDocuments_onTree (onTree : disk.OnTree tree number) (options : CommandOptions) (s : σ) :
    Reaches (readDocuments disk options) s fun result s' =>
      tree s' = tree s ∧ ∀ protocol domain, result = .ok (protocol, domain) →
        (tree s).document options.protocolPath .protocol = .ok protocol ∧
        (tree s).document options.domainPath .domain = .ok domain := by
  refine .bind (readDocument_onTree onTree _ _ s) fun result s₁ ⟨kept, first⟩ => ?_
  cases result with
  | error e => exact .pure ⟨kept, fun _ _ read => by cases read⟩
  | ok protocol =>
    refine .bind (readDocument_onTree onTree _ _ s₁) fun result s₂ ⟨kept', second⟩ => ?_
    rw [kept] at kept' second
    cases result with
    | error e => exact .pure ⟨kept', fun _ _ read => by cases read⟩
    | ok domain =>
      refine .pure ⟨kept', fun protocol' domain' h => ?_⟩
      cases h
      exact ⟨first protocol rfl, second domain rfl⟩

/-- The text is delivered and no error is reported, or nothing has come of it but an error. -/
theorem deliver_onTree (onTree : disk.OnTree tree number) (options : CommandOptions)
    (quiet : ∀ entry ∈ log, entry.severity ≠ .error) (text : String) (s : σ)
    (free : ∀ path ∈ options.outPath,
      (tree s).file? (TreePath.ofText (draftPath path number)) = none) :
    Reaches (deliver disk options log text) s fun outcome s' =>
      (outcome.succeeded = true ∧ outcome.errors = [] ∧
        Delivered text (tree s) (tree s') outcome.output options.outPath) ∨
      (outcome.succeeded = false ∧ Undone (tree s) (tree s') outcome) := by
  have silent : log.filter (·.severity == .error) = [] := by simpa using quiet
  unfold deliver
  cases out : options.outPath with
  | none => exact .pure (.inl ⟨rfl, silent, rfl, fun _ => rfl⟩)
  | some path =>
    refine .bind (onTree.replaceFile path text s (free path out)) fun result s' replaced => ?_
    cases result with
    | error e => exact .pure (.inr ⟨rfl, undone_failure replaced _ quiet rfl⟩)
    | ok _ =>
      let wrote : Message := { severity := .info, message := s!"Wrote {path}" }
      have added : (log ++ [wrote]).filter (·.severity == .error) = [] := by
        rw [List.filter_append, silent]
        rfl
      exact .pure (.inl ⟨rfl, added, rfl, replaced⟩)

/-- A run with options that have been chosen is done, or undone. -/
theorem runWith_onTree (onTree : disk.OnTree tree number) {arguments : List String}
    (chose : chosen arguments = .ok options) (s : σ)
    (free : ∀ path ∈ options.outPath,
      (tree s).file? (TreePath.ofText (draftPath path number)) = none) :
    Reaches (runWith disk options) s fun outcome s' =>
      (outcome.succeeded = true ∧ Done arguments (tree s) (tree s') outcome) ∨
      (outcome.succeeded = false ∧ Undone (tree s) (tree s') outcome) := by
  refine .bind (readDocuments_onTree onTree options s) fun result s₁ ⟨kept, found⟩ => ?_
  have unread : (tree s).SameFiles (tree s₁) := fun place => by rw [kept]
  cases result with
  | error e => exact .pure (.inr ⟨rfl, undone_failure unread _ nofun rfl⟩)
  | ok documents =>
    obtain ⟨protocol, domain⟩ := documents
    obtain ⟨protocolFound, domainFound⟩ := found protocol domain rfl
    have quiet := generateFromDocuments_quiet protocol domain options.toGeneratorOptions [] nofun
    dsimp only
    split
    · rename_i fault log generated
      rw [show (generateFromDocuments protocol domain options.toGeneratorOptions).run.run [] =
        (.error fault, log) from generated] at quiet
      exact .pure (.inr ⟨rfl, undone_failure unread _ quiet rfl⟩)
    · rename_i text log generated
      rw [show (generateFromDocuments protocol domain options.toGeneratorOptions).run.run [] =
        (.ok text, log) from generated] at quiet
      rw [← kept] at free
      refine .imp (deliver_onTree onTree options quiet text s₁ free) fun outcome s' ended => ?_
      rw [kept] at ended
      refine ended.imp_left fun ⟨succeeded, silent, delivered⟩ => ⟨succeeded, silent, ?_⟩
      exact ⟨options, protocol, domain, text, chose, protocolFound, domainFound,
        by rw [generated], delivered⟩

/-- A run ends with 0 or 1. If it ends with 1 then nothing has come of it but one error, and if it
ends with 0 then what is generated from the chosen documents, as they were, has been delivered. -/
theorem run_all_or_nothing (onTree : disk.OnTree tree number) (arguments : List String) (s : σ)
    (free : ∀ options path, chosen arguments = .ok options → options.outPath = some path →
      (tree s).file? (TreePath.ofText (draftPath path number)) = none) :
    Reaches (run disk arguments) s fun outcome s' =>
      (outcome.exitCode = 0 ∨ outcome.exitCode = 1) ∧
      (outcome.exitCode = 1 → Undone (tree s) (tree s') outcome) ∧
      (outcome.exitCode = 0 → Done arguments (tree s) (tree s') outcome) := by
  have ends : Reaches (run disk arguments) s fun outcome s' =>
      (outcome.succeeded = true ∧ Done arguments (tree s) (tree s') outcome) ∨
      (outcome.succeeded = false ∧ Undone (tree s) (tree s') outcome) := by
    rw [run, ← chosen]
    cases chose : chosen arguments with
    | error fault => exact .pure (.inr ⟨rfl, undone_failure (fun _ => rfl) _ (by simp) rfl⟩)
    | ok options => exact runWith_onTree onTree chose s fun path out => free options path chose out
  refine ends.imp fun outcome s' ended => ?_
  rcases ended with ⟨succeeded, done⟩ | ⟨failed, undone⟩
  · simp [Outcome.exitCode, succeeded, done]
  · simp [Outcome.exitCode, failed, undone]

/-- A run whose documents can be read and generated from ends with the delivery. -/
theorem run_of_generated {s s' : σ} {arguments : List String} {protocol domain text : String}
    (chose : chosen arguments = .ok options)
    (read : (readDocuments disk options).run s = (.ok (protocol, domain), s'))
    (generated : (generateFromDocuments protocol domain options.toGeneratorOptions).runLog =
      (.ok text, log)) :
    (run disk arguments).run s = (deliver disk options log text).run s' := by
  rw [run, ← chosen, chose]
  dsimp only
  rw [runWith, StateT.run_bind, read]
  dsimp only [bind]
  rw [generated]

/-- A protocol document without declarations of its own. -/
def smallProtocol : String := Text.ofLines [
  "schema:", "  name: p", "  version: 1",
  "client:", "  library: l", "  symbol-prefix: s",
  "  roles:", "    operation: o", "    status: o", "    packet: k", "    handle: o"]

/-- A domain document with what the roles of that one need. -/
def smallDomain : String := Text.ofLines [
  "schema:", "  name: d", "  version: 1",
  "types:", "- name: o", "  kind:", "    enum:", "      tag: u8", "      variants:",
  "      - name: a", "        value: 1",
  "- name: k", "  kind:", "    struct:", "      fields: []",
  "mappings:", "- type: o", "  name: O", "- type: k", "  name: K"]

/-- Two documents and a module that was generated before. -/
def outdated : FileTree :=
  .ofList [] [("p.yaml", smallProtocol), ("d.yaml", smallDomain), ("gen/bindings.py", "old")]

/-- Arguments that have the module generated again. -/
def regenerate : List String :=
  ["--protocol", "p.yaml", "--domain", "d.yaml", "--out", "gen/bindings.py"]

/-- A disk in memory on which nothing can be moved. -/
def unmovable : Disk (StateM FileTree) :=
  { FileTree.disk 7 with rename := fun _ _ => pure (.error .busy) }

theorem smallDocuments_accepted :
    (generateFromDocuments smallProtocol smallDomain {}).runLog.1.isOk = true := by
  -- The characters of a whole text take long to compute, those of its lines do not.
  rw [generateFromDocuments, Document.parse, Document.parse, Yaml.read, Yaml.read, Yaml.value?,
    Yaml.value?, Yaml.scan, Yaml.scan, smallProtocol, smallDomain, Text.toList_ofLines,
    Text.toList_ofLines]
  decide +kernel

theorem smallDocuments_generated :
    ∃ text log, (generateFromDocuments smallProtocol smallDomain {}).runLog = (.ok text, log) := by
  have accepted := smallDocuments_accepted
  cases ran : (generateFromDocuments smallProtocol smallDomain {}).runLog with
  | mk result log =>
    rw [ran] at accepted
    cases result with
    | ok text => exact ⟨text, log, rfl⟩
    | error fault => cases accepted

theorem run_all_or_nothing_outdated :
    Reaches (run (FileTree.disk 7) regenerate) outdated (fun outcome after =>
      outcome.exitCode = 0 ∧ Done regenerate outdated after outcome) ∧
    Reaches (run unmovable regenerate) outdated (fun outcome after =>
      outcome.exitCode = 1 ∧ Undone outdated after outcome) := by
  have chosen_eq : chosen regenerate = .ok
      { protocolPath := some "p.yaml", domainPath := some "d.yaml"
        outPath := some "gen/bindings.py" } := rfl
  have free : ∀ options path, chosen regenerate = .ok options → options.outPath = some path →
      outdated.file? (TreePath.ofText (draftPath path 7)) = none := by
    rintro options path chose out
    rw [chosen_eq] at chose
    cases chose
    cases out
    decide
  have moves := FileTree.disk_onTree 7
  have refuses : unmovable.OnTree (fun tree => tree) 7 := { moves with rename := fun _ _ _ => rfl }
  obtain ⟨text, log, generated⟩ := smallDocuments_generated
  have replaced : ((run (FileTree.disk 7) regenerate).run outdated).1.exitCode = 0 := by
    rw [run_of_generated chosen_eq rfl generated]
    rfl
  have kept : ((run unmovable regenerate).run outdated).1.exitCode = 1 := by
    rw [run_of_generated chosen_eq rfl generated]
    rfl
  obtain ⟨-, -, done⟩ := run_all_or_nothing moves regenerate outdated free
  obtain ⟨-, undone, -⟩ := run_all_or_nothing refuses regenerate outdated free
  exact ⟨⟨replaced, done replaced⟩, ⟨kept, undone kept⟩⟩

end Command

end NativeBindings
