import NativeBindings.Proofs.Grammar
import NativeBindings.Text
import Mathlib.Computability.Language

/-!
# The grammar of module paths

A module path is any number of dots and then one or more identifiers with a single dot between any
two (`Text.IsModulePath`). The texts of that form are a regular language
(`Text.isModulePath_iff_mem_language`), and the test splits a text at the dots after the leading
ones to find out whether it is one of them (`Text.isModulePath_iff`).
-/
namespace NativeBindings.Text

open Computability

/-! ## Identifiers -/

/-- An ASCII letter or the underscore. -/
def IsLetter (c : Char) : Prop := ('A' ≤ c ∧ c ≤ 'Z') ∨ ('a' ≤ c ∧ c ≤ 'z') ∨ c = '_'

/-- A letter or an ASCII digit. -/
def IsLetterOrDigit (c : Char) : Prop := IsLetter c ∨ ('0' ≤ c ∧ c ≤ '9')

/-- A letter, then letters and digits. -/
def IsIdentifier (word : List Char) : Prop :=
  ∃ first rest, word = first :: rest ∧ IsLetter first ∧ ∀ c ∈ rest, IsLetterOrDigit c

theorem isIdentifierStart_iff {c : Char} : isIdentifierStart c = true ↔ IsLetter c := by
  have ranges : isIdentifierStart c = (decide ('A' ≤ c ∧ c ≤ 'Z') ||
      (decide ('a' ≤ c) && decide (c ≤ 'z')) || c == '_') := rfl
  rw [ranges]
  simp only [Bool.or_eq_true, Bool.and_eq_true, decide_eq_true_eq, beq_iff_eq, or_assoc]
  rfl

theorem isIdentifierPart_iff {c : Char} : isIdentifierPart c = true ↔ IsLetterOrDigit c := by
  rw [IsLetterOrDigit, ← isIdentifierStart_iff, ← isDigit_iff]
  simp only [isIdentifierPart, isIdentifierStart, Char.isAlphanum, Bool.or_eq_true]
  tauto

theorem isIdentifierChars_iff {word : List Char} :
    isIdentifierChars word = true ↔ IsIdentifier word := by
  cases word with
  | nil => simp [isIdentifierChars, IsIdentifier]
  | cons first rest =>
    simp [isIdentifierChars, IsIdentifier, isIdentifierStart_iff, isIdentifierPart_iff]

theorem not_isLetterOrDigit_dot : ¬ IsLetterOrDigit '.' := by
  rw [← isIdentifierPart_iff]
  decide

theorem IsIdentifier.dot_notMem {word : List Char} (h : IsIdentifier word) : '.' ∉ word := by
  obtain ⟨first, rest, rfl, letter, others⟩ := h
  rw [List.mem_cons, not_or]
  constructor
  · rintro rfl
    exact not_isLetterOrDigit_dot (.inl letter)
  · exact fun mem => not_isLetterOrDigit_dot (others _ mem)

/-! ## Paths -/

/-- Dots, and then identifiers with a dot between any two. -/
def IsModulePath (path : String) : Prop :=
  ∃ (dots : Nat) (names : List (List Char)), names ≠ [] ∧ (∀ name ∈ names, IsIdentifier name) ∧
    path.toList = List.replicate dots '.' ++ ['.'].intercalate names

theorem takeWhile_dot (cs : List Char) :
    ∃ dots, cs.takeWhile (· == '.') = List.replicate dots '.' :=
  ⟨_, List.eq_replicate_iff.mpr ⟨rfl, fun _ mem => by simpa using List.mem_takeWhile_imp mem⟩⟩

theorem intercalate_cons (first : List Char) (rest : List (List Char)) :
    ['.'].intercalate (first :: rest) = first ++ (rest.map ('.' :: ·)).flatten := by
  induction rest generalizing first with
  | nil => simp [List.intercalate]
  | cons second rest ih =>
    have step : ['.'].intercalate (first :: second :: rest) =
        first ++ '.' :: ['.'].intercalate (second :: rest) := by
      simp [List.intercalate, List.intersperse]
    rw [step, ih, List.map_cons, List.flatten_cons, List.cons_append]

/-- Leading dots are dropped, and nothing of the identifiers is. -/
theorem dropWhile_dot (dots : Nat) {names : List (List Char)} (some : names ≠ [])
    (identifiers : ∀ name ∈ names, IsIdentifier name) :
    (List.replicate dots '.' ++ ['.'].intercalate names).dropWhile (· == '.') =
      ['.'].intercalate names := by
  rw [List.dropWhile_append_of_pos fun c mem => by simp [List.eq_of_mem_replicate mem]]
  obtain ⟨name, names, rfl⟩ := List.exists_cons_of_ne_nil some
  obtain ⟨first, rest, rfl, letter, -⟩ := identifiers name List.mem_cons_self
  have solid : (first == '.') = false := by
    refine beq_false_of_ne ?_
    rintro rfl
    exact not_isLetterOrDigit_dot (.inl letter)
  rw [intercalate_cons, List.cons_append, List.dropWhile_cons_of_neg (by simp [solid])]

/-- The test accepts the module paths. -/
theorem isModulePath_iff {path : String} : isModulePath path = true ↔ IsModulePath path := by
  have each (names : List (List Char)) : names.all isIdentifierChars = true ↔
      ∀ name ∈ names, IsIdentifier name := by
    simp [isIdentifierChars_iff]
  rw [isModulePath, each]
  constructor
  · intro identifiers
    obtain ⟨dots, leading⟩ := takeWhile_dot path.toList
    refine ⟨dots, _, List.splitOn_ne_nil _ _, identifiers, ?_⟩
    rw [List.intercalate_splitOn, ← leading, List.takeWhile_append_dropWhile]
  · rintro ⟨dots, names, some, identifiers, same⟩
    rw [same, dropWhile_dot dots some identifiers,
      List.splitOn_intercalate '.' (fun name mem => (identifiers name mem).dot_notMem) some]
    exact identifiers

/-! ## The regular language -/

/-- The words of one character. -/
def oneOf (P : Char → Prop) : Language Char := {word | ∃ c, P c ∧ word = [c]}

/-- Identifiers, `[A-Za-z_][A-Za-z0-9_]*`. -/
def identifiers : Language Char := oneOf IsLetter * (oneOf IsLetterOrDigit)∗

/-- A dot and an identifier. -/
def furtherName : Language Char := oneOf (· = '.') * identifiers

/-- Module paths: dots, an identifier, and any number of further ones. -/
def modulePaths : Language Char := (oneOf (· = '.'))∗ * identifiers * furtherName∗

theorem mem_kstar_oneOf {P : Char → Prop} {word : List Char} :
    word ∈ (oneOf P)∗ ↔ ∀ c ∈ word, P c := by
  rw [Language.mem_kstar]
  constructor
  · rintro ⟨pieces, rfl, each⟩ c mem
    obtain ⟨piece, listed, inside⟩ := List.mem_flatten.mp mem
    obtain ⟨c', holds, rfl⟩ := each piece listed
    exact List.mem_singleton.mp inside ▸ holds
  · intro each
    refine ⟨word.map ([·]), by simp [← List.flatMap_def], fun piece mem => ?_⟩
    obtain ⟨c, listed, rfl⟩ := List.mem_map.mp mem
    exact ⟨c, each c listed, rfl⟩

theorem mem_identifiers {word : List Char} : word ∈ identifiers ↔ IsIdentifier word := by
  simp only [identifiers, Language.mem_mul, mem_kstar_oneOf]
  constructor
  · rintro ⟨_, ⟨first, letter, rfl⟩, rest, others, rfl⟩
    exact ⟨first, rest, rfl, letter, others⟩
  · rintro ⟨first, rest, rfl, letter, others⟩
    exact ⟨_, ⟨first, letter, rfl⟩, rest, others, rfl⟩

theorem mem_kstar_dot {word : List Char} :
    word ∈ (oneOf (· = '.'))∗ ↔ ∃ dots, word = List.replicate dots '.' := by
  rw [mem_kstar_oneOf]
  constructor
  · exact fun each => ⟨_, List.eq_replicate_iff.mpr ⟨rfl, each⟩⟩
  · rintro ⟨dots, rfl⟩
    exact fun c mem => List.eq_of_mem_replicate mem

theorem mem_furtherName {word : List Char} :
    word ∈ furtherName ↔ ∃ name, IsIdentifier name ∧ word = '.' :: name := by
  rw [furtherName, Language.mem_mul]
  constructor
  · rintro ⟨_, ⟨_, rfl, rfl⟩, name, identifier, rfl⟩
    exact ⟨name, mem_identifiers.mp identifier, rfl⟩
  · rintro ⟨name, identifier, rfl⟩
    exact ⟨['.'], ⟨'.', rfl, rfl⟩, name, mem_identifiers.mpr identifier, rfl⟩

theorem mem_kstar_furtherName {word : List Char} : word ∈ furtherName∗ ↔
    ∃ names : List (List Char), (∀ name ∈ names, IsIdentifier name) ∧
      word = (names.map ('.' :: ·)).flatten := by
  rw [Language.mem_kstar]
  constructor
  · rintro ⟨pieces, rfl, each⟩
    induction pieces with
    | nil => exact ⟨[], nofun, rfl⟩
    | cons piece pieces ih =>
      obtain ⟨first, others⟩ := List.forall_mem_cons.mp each
      obtain ⟨name, identifier, rfl⟩ := mem_furtherName.mp first
      obtain ⟨names, further, same⟩ := ih others
      refine ⟨name :: names, List.forall_mem_cons.mpr ⟨identifier, further⟩, ?_⟩
      rw [List.flatten_cons, same, List.map_cons, List.flatten_cons]
  · rintro ⟨names, each, rfl⟩
    refine ⟨names.map ('.' :: ·), rfl, fun piece mem => ?_⟩
    obtain ⟨name, listed, rfl⟩ := List.mem_map.mp mem
    exact mem_furtherName.mpr ⟨name, each name listed, rfl⟩

/-- The module paths are the words of the regular language. -/
theorem isModulePath_iff_mem_language {path : String} :
    IsModulePath path ↔ path.toList ∈ modulePaths := by
  rw [modulePaths, Language.mem_mul]
  simp only [Language.mem_mul, mem_kstar_dot, mem_identifiers, mem_kstar_furtherName]
  constructor
  · rintro ⟨dots, names, some, each, same⟩
    obtain ⟨name, names, rfl⟩ := List.exists_cons_of_ne_nil some
    obtain ⟨first, others⟩ := List.forall_mem_cons.mp each
    refine ⟨_, ⟨_, ⟨dots, rfl⟩, name, first, rfl⟩, _, ⟨names, others, rfl⟩, ?_⟩
    rw [same, intercalate_cons, List.append_assoc]
  · rintro ⟨_, ⟨_, ⟨dots, rfl⟩, name, first, rfl⟩, _, ⟨names, others, rfl⟩, same⟩
    refine ⟨dots, name :: names, List.cons_ne_nil _ _,
      List.forall_mem_cons.mpr ⟨first, others⟩, ?_⟩
    rw [← same, intercalate_cons, List.append_assoc]

end NativeBindings.Text
