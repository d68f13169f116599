import NativeBindings.Yaml.Lexeme

/-!
# The outline of a YAML text

What belongs to what, before anything is read: collections of entries, each with the lexemes before
its key and its value. An outline says nothing about whether the parts are allowed where they stand.

The entries of a collection are in reverse, because an outline grows at its end.
-/
namespace NativeBindings.Yaml

/-- An entry of a collection: a key and a value of a mapping, or a value of a sequence. -/
structure Entry (τ : Type) where
  /-- The lexemes before the key, or before the value if there is no key. -/
  start : List Lexeme := []
  explicit : Bool := false
  key : Option τ := none
  /-- The lexemes between the key and the value; there are none until the key is complete. -/
  separator : Option (List Lexeme) := none
  value : Option τ := none
  deriving Inhabited

namespace Entry

/-- Adds a lexeme before the value, or before the key if it is not complete. -/
def add {τ : Type} (entry : Entry τ) (t : Lexeme) : Entry τ :=
  match entry.separator with
  | some separator => { entry with separator := some (separator ++ [t]) }
  | none => { entry with start := entry.start ++ [t] }

def isTrivia {τ : Type} (entry : Entry τ) : Bool :=
  entry.separator.isNone && entry.value.isNone && !entry.start.isEmpty &&
    entry.start.all (·.kind.isTrivia)

end Entry

/-- A part of an outline. -/
inductive Part where
  /-- An alias or a scalar other than a block scalar, with what follows it on its line. -/
  | flowScalar (lexeme : Lexeme) (ending : Option (List Lexeme))
  /-- A block scalar: its header and the lexemes after it, and its lines. -/
  | block (indent : Nat) (lead : List Lexeme) (text : String)
  | map (offset indent : Nat) (entries : List (Entry Part))
  | seq (offset indent : Nat) (entries : List (Entry Part))
  /-- A flow collection, with its closing bracket and what follows. -/
  | flow (opening : Lexeme) (indent : Nat) (entries : List (Entry Part)) (ending : List Lexeme)
  | misplaced
  deriving Inhabited

namespace Part

def indent? : Part → Option Nat
  | flowScalar t _ => some t.indent
  | block indent _ _ => some indent
  | map _ indent _ => some indent
  | seq _ indent _ => some indent
  | flow _ indent _ _ => some indent
  | misplaced => none

def ending? : Part → Option (List Lexeme)
  | flowScalar _ ending => ending
  | flow _ _ _ ending => some ending
  | _ => none

def addEnding (part : Part) (ts : List Lexeme) : Part :=
  match part with
  | flowScalar t ending => flowScalar t (some (ending.getD [] ++ ts))
  | flow opening indent entries ending => flow opening indent entries (ending ++ ts)
  | other => other

/-- Does a comment end the line of a part? -/
def endsInComment (part : Part) : Bool :=
  (part.ending?.bind List.getLast?).any (·.kind == .comment)

/-- A part in flow style; also an alias. -/
def isFlow : Part → Bool
  | flowScalar _ _ => true
  | flow _ _ _ _ => true
  | _ => false

def isBlockCollection : Part → Bool
  | map _ _ _ => true
  | seq _ _ _ => true
  | _ => false

mutual

/-- Does a part run over several lines, or end its line? -/
def hasLineEnd : Part → Bool
  | flowScalar t ending => t.text.toList.contains '\n' || hasKind .newline (ending.getD [])
  | flow _ _ entries _ => entriesHaveLineEnd entries
  | _ => true

def entriesHaveLineEnd : List (Entry Part) → Bool
  | [] => false
  | ⟨start, _, key, separator, value⟩ :: rest =>
    hasKind .newline start || hasKind .newline (separator.getD []) ||
      optionHasLineEnd key || optionHasLineEnd value || entriesHaveLineEnd rest

def optionHasLineEnd : Option Part → Bool
  | none => false
  | some part => part.hasLineEnd

end

end Part

inductive Piece where
  | directive (text : String)
  | document (offset : Nat) (start : List Lexeme) (value : Option Part) (ending : List Lexeme)
  | documentEnd (ending : List Lexeme)
  deriving Inhabited

end NativeBindings.Yaml
