import NativeBindings.Module.Generate
import Mathlib.Data.List.Forall2

/-!
# The generated module as statements

The text of a module, read as the statements that run one after another when it is imported. A
binding is two of them, the class and the assignment of its fields, so what the fields mention is
looked up after the class exists. Each statement says which structure classes it defines
(`Statement.defines`) and which representations it evaluates (`Statement.evaluates`), and its lines
hold both (`lines_of_defines`, `lines_of_evaluates`).

* `BindingModule.text_eq_statements`: the text is the lines of the statements in their order.
* `Throughout`: a property of each item of a list together with the items before it.
-/
namespace NativeBindings

/-- Statements at the top of a module that stay together. -/
inductive Statement where
  | preamble (preamble : Preamble)
  | definition (definition : Definition)
  | record (record : Record)
  | structureClass (binding : StructBinding)
  | structureFields (binding : StructBinding)
  | entryPoints (entryPoints : EntryPoints)
  | mixin (methods : List MethodSignature) (operationEnum : String) (convention : Convention)
  deriving DecidableEq, Repr, Inhabited

namespace Statement

/-- The lines of a statement. -/
def lines : Statement → List String
  | .preamble p => p.lines
  | .definition d => d.lines
  | .record r => r.lines
  | .structureClass b => b.classLines
  | .structureFields b => b.fieldLines
  | .entryPoints e => e.lines
  | .mixin methods operationEnum convention => mixinLines methods operationEnum convention

/-- The mapped names whose structure classes a statement defines. -/
def defines : Statement → List String
  | .structureClass b => [b.name]
  | _ => []

/-- The representations that an alias or a list of fields evaluates. -/
def evaluates : Statement → List Ctype
  | .definition (.alias _ type) => [type]
  | .structureFields b => b.layout.map (·.2)
  | _ => []

theorem lines_of_defines {s : Statement} {name : String} (h : name ∈ s.defines) :
    s!"class {Naming.structureClass name}(ctypes.Structure):" ∈ s.lines := by
  cases s with
  | structureClass b =>
    obtain rfl : name = b.name := by simpa [defines] using h
    simp [lines, StructBinding.classLines, StructBinding.className]
  | _ => simp [defines] at h

theorem lines_of_evaluates {s : Statement} {type : Ctype} (h : type ∈ s.evaluates) :
    ∃ line ∈ s.lines, ∃ before after, line = before ++ type.text ++ after := by
  cases s with
  | definition d =>
    rcases d with c | ⟨name, type'⟩
    · simp [evaluates] at h
    · obtain rfl : type = type' := by simpa [evaluates] using h
      exact ⟨s!"{name} = {type.text}", by simp [lines, Definition.lines], name ++ " = ", "",
        by simp [toString]⟩
  | structureFields b =>
    obtain ⟨⟨field, ctype⟩, hfield, rfl⟩ := List.mem_map.mp h
    refine ⟨s!"    (\"{field}\", {ctype.text}),", ?_, s!"    (\"{field}\", ", "),", rfl⟩
    simp only [lines, StructBinding.fieldLines, List.mem_append, List.mem_map]
    exact .inl (.inr ⟨_, hfield, rfl⟩)
  | _ => simp [evaluates] at h

end Statement

/-! ## The statements of a module -/

/-- The statements of a binding. -/
def StructBinding.statements (b : StructBinding) : List Statement :=
  [.structureClass b, .structureFields b]

namespace BindingModule

/-- The statements before the bindings. -/
def head (m : BindingModule) : List Statement :=
  .preamble m.preamble :: (m.definitions.map .definition ++ m.records.map .record)

/-- The statements after the bindings. -/
def tail (m : BindingModule) : List Statement :=
  .entryPoints m.entryPoints :: Convention.all.map (.mixin m.methods m.operationEnum)

/-- The statements of a module, in the order in which they run. -/
def statements (m : BindingModule) : List Statement :=
  m.head ++ m.bindings.flatMap (·.statements) ++ m.tail

theorem flatMap_lines_statements (m : BindingModule) :
    m.statements.flatMap (·.lines) = m.blocks.flatten := by
  have bindings : (m.bindings.flatMap (·.statements)).flatMap (·.lines) =
      (m.bindings.map (·.lines)).flatten := by
    rw [List.flatMap_assoc, ← List.flatMap_def]
    refine List.flatMap_congr fun b _ => ?_
    simp [StructBinding.statements, Statement.lines, StructBinding.lines]
  have others : m.head.flatMap (·.lines) = m.preamble.lines ++
        ((m.definitions.map (·.lines)).flatten ++ (m.records.map (·.lines)).flatten) ∧
      m.tail.flatMap (·.lines) = m.entryPoints.lines ++
        (Convention.all.map (mixinLines m.methods m.operationEnum)).flatten := by
    simp only [head, tail, List.flatMap_cons, List.flatMap_append, List.flatMap_map,
      Statement.lines, ← List.flatMap_def, and_self]
  simp [statements, blocks, bindings, others]

end BindingModule

theorem Text.join_ofLines (blocks : List (List String)) :
    String.join (blocks.map Text.ofLines) = Text.ofLines blocks.flatten := by
  induction blocks with
  | nil => rfl
  | cons block rest ih =>
    rw [List.map_cons, String.join_cons, ih, List.flatten_cons, Text.ofLines_append]

/-- The text of a module is that of its statements, one after another. -/
theorem BindingModule.text_eq_statements (m : BindingModule) :
    m.text = Text.trimEnd (Text.ofLines (m.statements.flatMap (·.lines))) ++ "\n" := by
  rw [text, Text.join_ofLines, flatMap_lines_statements]

/-! ## Items with the items before them -/

/-- Each item of a list satisfies `P` together with the items before it. -/
def Throughout {α : Type} (P : List α → α → Prop) (items : List α) : Prop :=
  ∀ before item after, items = before ++ item :: after → P before item

variable {α β : Type} {P : List α → α → Prop}

@[simp]
theorem throughout_nil : Throughout P [] := fun before item after h => by simp at h

@[simp]
theorem throughout_cons {x : α} {xs : List α} :
    Throughout P (x :: xs) ↔ P [] x ∧ Throughout (fun before => P (x :: before)) xs := by
  constructor
  · intro h
    exact ⟨h [] x xs rfl, fun before item after same => h (x :: before) item after (by simp [same])⟩
  · rintro ⟨first, rest⟩ before item after same
    cases before with
    | nil => cases same; exact first
    | cons y before =>
      obtain ⟨rfl, behind⟩ := List.cons_eq_cons.mp same
      exact rest before item after behind

theorem throughout_append {xs ys : List α} :
    Throughout P (xs ++ ys) ↔ Throughout P xs ∧ Throughout (fun before => P (xs ++ before)) ys := by
  induction xs generalizing P with
  | nil => simp
  | cons x xs ih => simp [ih, and_assoc]

/-- Of the items that pass a test, it is those that count. -/
theorem throughout_filter {p : α → Bool} {xs : List α} :
    Throughout P (xs.filter p) ↔
      Throughout (fun before x => p x = true → P (before.filter p) x) xs := by
  induction xs generalizing P with
  | nil => simp
  | cons x xs ih => cases h : p x <;> simp [h, ih]

/-- Lists that correspond item by item satisfy corresponding properties. -/
theorem throughout_iff_of_forall₂ {Q : List β → β → Prop} {R : α → β → Prop} {xs : List α}
    {ys : List β} (h : List.Forall₂ R xs ys)
    (same : ∀ before before' x y, List.Forall₂ R before before' → R x y →
      (P before x ↔ Q before' y)) : Throughout P xs ↔ Throughout Q ys := by
  induction h generalizing P Q with
  | nil => simp
  | cons first _ ih =>
    rw [throughout_cons, throughout_cons, same [] [] _ _ .nil first,
      ih fun before before' x y rest => same _ _ x y (.cons first rest)]

theorem throughout_congr {Q : List α → α → Prop} {xs : List α}
    (same : ∀ before item after, xs = before ++ item :: after → (P before item ↔ Q before item)) :
    Throughout P xs ↔ Throughout Q xs :=
  ⟨fun h before item after split => (same before item after split).mp (h before item after split),
    fun h before item after split => (same before item after split).mpr (h before item after split)⟩

/-- A property that asks nothing of the items before is one of each item. -/
theorem throughout_const {Q : α → Prop} {xs : List α} :
    Throughout (fun _ => Q) xs ↔ ∀ x ∈ xs, Q x := by
  constructor
  · intro h x hx
    obtain ⟨before, after, split⟩ := List.append_of_mem hx
    exact h before x after split
  · intro h before item after split
    exact h item (by simp [split])

end NativeBindings
