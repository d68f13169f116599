import NativeBindings.Schema
import NativeBindings.Proofs.Grammar
import Mathlib.Data.Set.Operations

/-!
# Types written and read back

The text of a type that has a notation (`NativeType.HasNotation`) denotes the type, so reading
undoes writing, and the types that have a notation are exactly those that some text is read as.

* `HasNotation.not_blank`: nothing in such a text is a blank, so nothing of it is trimmed away and
  an array's element never breaks the line.
* `HasNotation.denotes_text`: the text denotes the type, by recursion on the type.
* `Expression.text_reads_back`: reading and writing together.
-/
namespace NativeBindings

open Text

/-! ## Counts -/

namespace Text

theorem isNumeral_toDigits (n : Nat) : IsNumeral (Nat.toDigits 10 n) n :=
  ⟨Nat.toDigits_ne_nil, fun _ => Nat.isDigit_of_mem_toDigits (by decide) (by decide),
    Nat.ofDigitChars_ten_toDigits⟩

/-- What follows the last blank can be told from what precedes it. -/
theorem append_blank_inj {left left' digits digits' : List Char} (whole : ' ' ∉ digits)
    (whole' : ' ' ∉ digits') (same : left ++ ' ' :: digits = left' ++ ' ' :: digits') :
    left = left' ∧ digits = digits' := by
  rcases List.append_eq_append_iff.mp same with ⟨mid, rfl, between⟩ | ⟨mid, rfl, between⟩
  · cases mid with
    | nil => simpa using between
    | cons first mid => exact absurd (by simp [(List.cons.inj between).2]) whole
  · cases mid with
    | nil => simpa using between.symm
    | cons first mid => exact absurd (by simp [(List.cons.inj between).2]) whole'

/-- What follows the last operator can be told from what precedes it, if a blank ends the
operator. -/
theorem append_operator_inj {left left' operator digits digits' : List Char}
    (blank : operator.getLast? = some ' ') (whole : ' ' ∉ digits) (whole' : ' ' ∉ digits')
    (same : left ++ operator ++ digits = left' ++ operator ++ digits') :
    left = left' ∧ digits = digits' := by
  obtain ⟨start, rfl⟩ := List.getLast?_eq_some_iff.mp blank
  have split (before after : List Char) :
      before ++ (start ++ [' ']) ++ after = (before ++ start) ++ ' ' :: after := by simp
  rw [split, split] at same
  obtain ⟨sameLeft, sameDigits⟩ := append_blank_inj whole whole' same
  exact ⟨(List.append_left_inj _).mp sameLeft, sameDigits⟩

/-- No blank stands in a numeral. -/
theorem notMem_blank_of_isNumeral {digits : List Char} {length : Nat}
    (numeral : IsNumeral digits length) : ' ' ∉ digits := fun blank =>
  absurd (numeral.2.1 ' ' blank) (by decide)

/-- A count up to the largest safe integer is written in full. -/
theorem toList_countText {n : Nat} (safe : n ≤ 2 ^ 53 - 1) :
    (countText n).toList = Nat.toDigits 10 n := by
  have exact : (n : Int).natAbs ≤ Binary64.maxSafe + 1 := by
    have largest : Binary64.maxSafe = 2 ^ 53 - 1 := rfl
    omega
  have digits : toString (n : Int) = String.ofList (Nat.toDigits 10 n) := rfl
  rw [countText, if_pos exact, digits, String.toList_ofList]

/-! ## Characters -/

theorem isBlank_of_mem_lineEnds {c : Char} (h : c ∈ Expression.lineEnds) : isBlank c = true :=
  List.all_eq_true.mp (by decide : Expression.lineEnds.all isBlank = true) c h

theorem not_blank_of_all {text : List Char} (h : text.all (!isBlank ·) = true) :
    ∀ c ∈ text, isBlank c = false := by
  simpa using h

theorem toNat_of_isAlpha {c : Char} (h : c.isAlpha = true) : 65 ≤ c.toNat ∧ c.toNat ≤ 122 := by
  rcases Bool.or_eq_true_iff.mp (show (c.isUpper || c.isLower) = true from h) with upper | lower
  · obtain ⟨first, last⟩ : 'A' ≤ c ∧ c ≤ 'Z' := of_decide_eq_true upper
    exact ⟨first, last.trans (by decide : 'Z' ≤ 'z')⟩
  · obtain ⟨first, last⟩ := Bool.and_eq_true_iff.mp lower
    have first : 'a' ≤ c := of_decide_eq_true first
    have last : c ≤ 'z' := of_decide_eq_true last
    exact ⟨(by decide : 'A' ≤ 'a').trans first, last⟩

/-- Identifiers are made of characters between the digit zero and the letter z, which no blank
is. -/
theorem not_blank_of_isIdentifierPart {c : Char} (h : isIdentifierPart c = true) :
    isBlank c = false := by
  have between : 48 ≤ c.toNat ∧ c.toNat ≤ 122 := by
    simp only [isIdentifierPart, Char.isAlphanum, Bool.or_eq_true, beq_iff_eq] at h
    rcases h with (alpha | digit) | rfl
    · have range := toNat_of_isAlpha alpha
      omega
    · obtain ⟨first, last⟩ := isDigit_iff.mp digit
      exact ⟨first, last.trans (by decide : '9' ≤ 'z')⟩
    · decide
  simp only [isBlank, Bool.or_eq_false_iff, Bool.and_eq_false_iff, decide_eq_false_iff_not,
    beq_eq_false_iff_ne]
  omega

theorem isIdentifierPart_of_mem {name : String} (h : isIdentifier name = true) {c : Char}
    (hc : c ∈ name.toList) : isIdentifierPart c = true := by
  rw [isIdentifier] at h
  generalize name.toList = text at h hc
  cases text with
  | nil => cases hc
  | cons first rest =>
    simp only [isIdentifierChars, Bool.and_eq_true, List.all_eq_true] at h
    rcases List.mem_cons.mp hc with rfl | hc
    · have start := h.1
      simp only [isIdentifierStart, Bool.or_eq_true] at start
      simp only [isIdentifierPart, Char.isAlphanum, Bool.or_eq_true]
      exact start.imp_left .inl
    · exact h.2 c hc

theorem not_blank_of_isDigit {c : Char} (h : c.isDigit = true) : isBlank c = false :=
  not_blank_of_isIdentifierPart (by simp [isIdentifierPart, Char.isAlphanum, h])

/-- A text without blanks has none around it. -/
theorem trimsTo_self {text : List Char} (h : ∀ c ∈ text, isBlank c = false) : TrimsTo text text :=
  ⟨[], [], by simp, by simp, by simp, fun c hc => h c (List.mem_of_mem_head? hc),
    fun c hc => h c (List.mem_of_mem_getLast? hc)⟩

end Text

/-! ## The text of a type -/

namespace NativeType

open Expression

theorem toList_text_int {bits : Nat} (safe : bits ≤ 2 ^ 53 - 1) (signed : Bool) :
    (int bits signed).text.toList = (if signed then 'i' else 'u') :: Nat.toDigits 10 bits := by
  cases signed <;> simp [text, toList_countText safe]

theorem toList_text_float {bits : Nat} (safe : bits ≤ 2 ^ 53 - 1) :
    (float bits).text.toList = 'f' :: Nat.toDigits 10 bits := by
  simp [text, toList_countText safe]

theorem toList_text_array (element : NativeType) {length : Nat} (safe : length ≤ 2 ^ 53 - 1) :
    (array element length).text.toList =
      '[' :: (Nat.toDigits 10 length ++ ']' :: element.text.toList) := by
  simp [text, toList_countText safe]

theorem toList_text_pointer (pointee : NativeType) (nullable : Bool) :
    (pointer pointee nullable).text.toList =
      (if nullable then ['?', '*'] else ['*']) ++ pointee.text.toList := by
  cases nullable <;> simp [text]

theorem not_blank_of_mem_toDigits {n : Nat} {c : Char} (h : c ∈ Nat.toDigits 10 n) :
    isBlank c = false :=
  not_blank_of_isDigit (Nat.isDigit_of_mem_toDigits (by decide) (by decide) h)

/-- No character of the text is a blank. -/
theorem HasNotation.not_blank : ∀ {type : NativeType}, type.HasNotation →
    ∀ c ∈ type.text.toList, isBlank c = false
  | .bool, _ | .void, _ | .untyped, _ => not_blank_of_all (by decide)
  | .int bits signed, h => by
    obtain ⟨lower, upper⟩ := h
    lift bits to Nat using by omega
    rw [toList_text_int (by omega)]
    have letter : isBlank (if signed then 'i' else 'u') = false := by cases signed <;> rfl
    exact List.forall_mem_cons.mpr ⟨letter, fun c => not_blank_of_mem_toDigits⟩
  | .float bits, h => by
    lift bits to Nat using by rcases h with rfl | rfl | rfl | rfl <;> decide
    rw [toList_text_float (by rcases h with h | h | h | h <;> omega)]
    exact List.forall_mem_cons.mpr ⟨rfl, fun c => not_blank_of_mem_toDigits⟩
  | .array element length, h => by
    obtain ⟨range, inner⟩ := h
    lift length to Nat using by omega
    rw [toList_text_array element (by omega)]
    refine List.forall_mem_cons.mpr ⟨rfl, List.forall_mem_append.mpr
      ⟨fun c => not_blank_of_mem_toDigits, List.forall_mem_cons.mpr ⟨rfl, inner.not_blank⟩⟩⟩
  | .pointer pointee nullable, h => by
    have inner : pointee.HasNotation := h
    rw [toList_text_pointer]
    refine List.forall_mem_append.mpr ⟨?_, inner.not_blank⟩
    cases nullable <;> exact not_blank_of_all (by decide)
  | .ref name, h => by
    obtain ⟨identifier, -⟩ := h
    intro c hc
    exact not_blank_of_isIdentifierPart (isIdentifierPart_of_mem identifier hc)

/-- The text of a type denotes the type. -/
theorem HasNotation.denotes_text : ∀ {type : NativeType}, type.HasNotation →
    Denotes type.text.toList type
  | .bool, h => .word (trimsTo_self h.not_blank) .bool
  | .void, h => .word (trimsTo_self h.not_blank) .void
  | .untyped, h => .word (trimsTo_self h.not_blank) .untyped
  | .int bits signed, h => by
    have trimmed := trimsTo_self h.not_blank
    obtain ⟨lower, upper⟩ := h
    lift bits to Nat using by omega
    rw [toList_text_int (by omega)] at trimmed ⊢
    exact .word trimmed (.integer signed (isNumeral_toDigits bits) (by omega))
  | .float bits, h => by
    have trimmed := trimsTo_self h.not_blank
    lift bits to Nat using by rcases h with rfl | rfl | rfl | rfl <;> decide
    rw [toList_text_float (by rcases h with h | h | h | h <;> omega)] at trimmed ⊢
    have width : bits ∈ [16, 32, 64, 128] := by
      simp only [HasNotation] at h
      simp only [List.mem_cons, List.not_mem_nil, or_false]
      omega
    exact .word trimmed (.float width)
  | .array element length, h => by
    have trimmed := trimsTo_self h.not_blank
    obtain ⟨range, inner⟩ := h
    lift length to Nat using by omega
    rw [toList_text_array element (by omega)] at trimmed ⊢
    have oneLine : ∀ c ∈ element.text.toList, c ∉ lineEnds := fun c hc ends => by
      simpa [inner.not_blank c hc] using isBlank_of_mem_lineEnds ends
    have denoted := inner.denotes_text
    exact .array trimmed (isNumeral_toDigits length) (by omega) denoted.ne_nil oneLine denoted
  | .pointer pointee nullable, h => by
    have trimmed := trimsTo_self h.not_blank
    have inner : pointee.HasNotation := h
    rw [toList_text_pointer] at trimmed ⊢
    cases nullable with
    | true => exact .nullable trimmed inner.denotes_text
    | false => exact .pointer trimmed inner.denotes_text
  | .ref name, h => .word (trimsTo_self h.not_blank) (.reference h.1 h.2)

end NativeType

namespace Expression

/-- The text of a type that has a notation is read as the type. -/
theorem parse_text {type : NativeType} (h : type.HasNotation) (context : String) :
    parse type.text context = .ok type :=
  parseChars_eq_ok_iff.mpr h.denotes_text

/-- What is read from a text is read again from its own text, wherever that stands, so no two types
that are read have one text. The types that are read are those that have a notation. -/
theorem text_reads_back :
    (∀ source context type, parse source context = .ok type →
      ∀ context', parse type.text context' = .ok type) ∧
    Set.InjOn NativeType.text {type | ∃ source context, parse source context = .ok type} ∧
    ∀ type : NativeType,
      ((∃ source context, parse source context = .ok type) ↔ type.HasNotation) ∧
      (type.HasNotation ↔ ∀ context, parse type.text context = .ok type) := by
  refine ⟨fun source context type read => parse_text (hasNotation_of_parse read), ?_,
    fun type => ⟨⟨?_, fun h => ⟨type.text, "", parse_text h ""⟩⟩,
      ⟨parse_text, fun h => hasNotation_of_parse (h "")⟩⟩⟩
  · rintro type ⟨source, context, read⟩ type' ⟨source', context', read'⟩ same
    have back := parse_text (hasNotation_of_parse read) ""
    rw [same, parse_text (hasNotation_of_parse read') ""] at back
    exact (Except.ok.inj back).symm
  · rintro ⟨source, context, read⟩
    exact hasNotation_of_parse read

end Expression
end NativeBindings
