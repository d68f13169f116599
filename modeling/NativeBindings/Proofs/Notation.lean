import NativeBindings.Native.Expression
import NativeBindings.Proofs.Outcome
import Mathlib.Algebra.Ring.Int.Defs
import Mathlib.Algebra.Ring.Nat

/-!
# Types that have a notation

What a type expression can be read as (`NativeType.HasNotation`): integers of 1 to 128 bits, floats
of the four widths, arrays of 1 to 2⁵³ - 1 elements, pointers, and references whose names are
identifiers that mean nothing else. Enums and structs have no notation, so no expression brings one
in at any depth.

* `hasNotation_of_word` is about the expressions that are not built from others.
* `hasNotation_of_parse` is about all of them, by induction on how one is read.
-/
namespace NativeBindings

open Text

namespace Expression

/-- The words for types of their own. -/
def keywords : List String := ["bool", "void", "anyopaque", "f16", "f32", "f64", "f128"]

/-- A word that is no reference: a keyword, or `u` or `i` with nothing but digits behind it. -/
def IsReserved (name : String) : Prop :=
  name ∈ keywords ∨ ∃ letter digits, (letter = 'u' ∨ letter = 'i') ∧
    name.toList = letter :: digits ∧ (numeral? 10 digits).isSome = true

end Expression

/-- A type that an expression can stand for. -/
def NativeType.HasNotation : NativeType → Prop
  | .bool | .void | .untyped => True
  | .int bits _ => 1 ≤ bits ∧ bits ≤ 128
  | .float bits => bits = 16 ∨ bits = 32 ∨ bits = 64 ∨ bits = 128
  | .array element length => (1 ≤ length ∧ length ≤ 2 ^ 53 - 1) ∧ element.HasNotation
  | .pointer pointee _ => pointee.HasNotation
  | .ref name => isIdentifier name = true ∧ ¬ Expression.IsReserved name
  | .enum _ _ | .struct _ _ => False

namespace Expression

variable {context : String} {type : NativeType}

/-- What stands behind a letter is either a width or part of a name. -/
theorem isReserved_ofList_cons_iff {letter : Char} {digits : List Char}
    (intro : letter = 'u' ∨ letter = 'i') (other : String.ofList (letter :: digits) ∉ keywords) :
    IsReserved (String.ofList (letter :: digits)) ↔ (numeral? 10 digits).isSome = true := by
  constructor
  · rintro (keyword | ⟨c, rest, -, same, number⟩)
    · exact absurd keyword other
    · rw [String.toList_ofList] at same
      cases same
      exact number
  · exact fun number => .inr ⟨letter, digits, intro, String.toList_ofList, number⟩

/-- A word that is no keyword is an integer of a width from 1 to 128, or a reference. -/
theorem word_eq_ok_of_not_keyword {text : List Char} (h : word context text = .ok type)
    (other : String.ofList text ∉ keywords) :
    (∃ letter digits, (letter = 'u' ∨ letter = 'i') ∧ text = letter :: digits ∧
      (numeral? 10 digits).isSome = true ∧ type = .int (digitsValue 10 digits) (letter == 'i') ∧
      1 ≤ digitsValue 10 digits ∧ digitsValue 10 digits ≤ 128) ∨
    (¬ IsReserved (String.ofList text) ∧ isIdentifierChars text = true ∧
      type = .ref (String.ofList text)) := by
  have apart := other
  simp only [keywords, List.mem_cons, List.not_mem_nil, or_false, not_or] at apart
  obtain ⟨b, v, a, f16, f32, f64, f128⟩ := apart
  simp only [word, b, v, a, f16, f32, f64, f128, if_false] at h
  split at h
  case h_1 digits =>
    split_ifs at h with number range name
    · cases h
      exact .inl ⟨'u', digits, .inl rfl, rfl, number, rfl, by omega,
        by simp only [maxIntegerBits] at range; omega⟩
    · cases h
      exact .inr ⟨fun reserved => number
        ((isReserved_ofList_cons_iff (.inl rfl) other).mp reserved), name, rfl⟩
  case h_2 digits =>
    split_ifs at h with number range name
    · cases h
      exact .inl ⟨'i', digits, .inr rfl, rfl, number, rfl, by omega,
        by simp only [maxIntegerBits] at range; omega⟩
    · cases h
      exact .inr ⟨fun reserved => number
        ((isReserved_ofList_cons_iff (.inr rfl) other).mp reserved), name, rfl⟩
  case h_3 notU notI =>
    split_ifs at h with name
    cases h
    refine .inr ⟨?_, name, rfl⟩
    rintro (keyword | ⟨letter, digits, rfl | rfl, same, -⟩)
    · exact other keyword
    · exact notU digits (by rw [← same, String.toList_ofList])
    · exact notI digits (by rw [← same, String.toList_ofList])

theorem hasNotation_of_word {text : List Char} (h : word context text = .ok type) :
    type.HasNotation := by
  by_cases keyword : String.ofList text ∈ keywords
  · simp only [keywords, List.mem_cons, List.not_mem_nil, or_false] at keyword
    rcases keyword with same | same | same | same | same | same | same <;>
      simp only [word, same, if_true] at h <;> cases h <;>
      simp [NativeType.HasNotation]
  · rcases word_eq_ok_of_not_keyword h keyword with
      ⟨letter, digits, -, -, -, rfl, positive, bounded⟩ | ⟨free, name, rfl⟩
    · simp only [NativeType.HasNotation]
      omega
    · exact ⟨by simpa [isIdentifier] using name, free⟩

/-- What an expression is read as has a notation. -/
theorem hasNotation_of_parseChars {source : List Char} (h : parseChars context source = .ok type) :
    type.HasNotation := by
  fun_induction parseChars context source generalizing type with
  | case1 => cases h
  | case2 source pointee trimmed ih =>
    obtain ⟨inner, read, rfl⟩ := map_eq_ok.mp h
    exact (ih read : inner.HasNotation)
  | case3 => cases h
  | case4 source pointee trimmed ih =>
    obtain ⟨inner, read, rfl⟩ := map_eq_ok.mp h
    exact (ih read : inner.HasNotation)
  | case5 => cases h
  | case6 =>
    rename_i length range ih
    obtain ⟨inner, read, rfl⟩ := map_eq_ok.mp h
    have safe : Binary64.maxSafe = 2 ^ 53 - 1 := rfl
    exact ⟨by omega, ih read⟩
  | case7 => exact hasNotation_of_word h

theorem hasNotation_of_parse {source : String} (h : parse source context = .ok type) :
    type.HasNotation :=
  hasNotation_of_parseChars h

end Expression
end NativeBindings
