import NativeBindings.Proofs.Notation
import Mathlib.Data.List.DropRight

/-!
# The grammar of type expressions

Which type a text denotes, said without a reader. `Expression.Word` are the types that are written
as one word, and `Expression.Denotes` is the grammar: a word, or a pointer or an array whose inner
type is again denoted by the rest of the text. Blanks may stand around every type, the inner ones
included, but not within `?*` or between the brackets.

* `Text.trimChars_eq_iff`, `Text.numeral?_eq_some_iff` and `arrayParts?_eq_some_iff` say what the
  pieces are that the reader cuts a text into.
* `parseChars_eq_ok_iff`: a text is read as a type exactly if it denotes the type.
* `parse_eq_denoted`: every text denotes one type and is read as it, or denotes none and is invalid.
-/
namespace NativeBindings

open Text

/-! ## Pieces of a text -/

namespace Text

/-- What is left of a text without the blanks around it. -/
def TrimsTo (text core : List Char) : Prop :=
  ∃ before after, text = before ++ (core ++ after) ∧
    (∀ c ∈ before, isBlank c = true) ∧ (∀ c ∈ after, isBlank c = true) ∧
    (∀ c ∈ core.head?, isBlank c = false) ∧ ∀ c ∈ core.getLast?, isBlank c = false

/-- A row of ASCII digits and the number it stands for. -/
def IsNumeral (digits : List Char) (value : Nat) : Prop :=
  digits ≠ [] ∧ (∀ c ∈ digits, c.isDigit = true) ∧ Nat.ofDigitChars 10 digits 0 = value

/-- Blanks in front of anything but a blank are dropped, and nothing else is. -/
theorem dropWhile_blank_append {before rest : List Char} (blank : ∀ c ∈ before, isBlank c = true)
    (head : ∀ c ∈ rest.head?, isBlank c = false) : (before ++ rest).dropWhile isBlank = rest := by
  rw [List.dropWhile_append_of_pos blank]
  cases rest with
  | nil => rfl
  | cons c rest => exact List.dropWhile_cons_of_neg (by simp [head c rfl])

theorem not_blank_of_mem_head?_dropWhile (text : List Char) {c : Char}
    (h : c ∈ (text.dropWhile isBlank).head?) : isBlank c = false := by
  have first := List.head?_dropWhile_not isBlank text
  rw [Option.mem_def.mp h] at first
  exact first

/-- Trimming leaves what stands between the blanks at both ends. -/
theorem trimChars_eq_iff {text core : List Char} : trimChars text = core ↔ TrimsTo text core := by
  constructor
  · rintro rfl
    have front := List.takeWhile_append_dropWhile (p := isBlank) (l := text)
    have back : trimChars text ++ (text.dropWhile isBlank).rtakeWhile isBlank =
        text.dropWhile isBlank := List.rdropWhile_append_rtakeWhile
    refine ⟨text.takeWhile isBlank, (text.dropWhile isBlank).rtakeWhile isBlank, ?_,
      fun c => List.mem_takeWhile_imp, fun c => List.mem_rtakeWhile_imp, fun c hc => ?_,
      fun c hc => ?_⟩
    · rw [back, front]
    · refine not_blank_of_mem_head?_dropWhile text ?_
      rw [← back]
      exact List.mem_head?_append_of_mem_head? hc
    · refine not_blank_of_mem_head?_dropWhile (text.dropWhile isBlank).reverse ?_
      simpa [trimChars, trimEndChars] using hc
  · rintro ⟨before, after, rfl, hbefore, hafter, head, last⟩
    have back : trimEndChars (core ++ after) = core := by
      rw [trimEndChars, List.reverse_append, dropWhile_blank_append (by simpa using hafter)
        (by simpa using last), List.reverse_reverse]
    cases core with
    | nil =>
      have blank : ∀ c ∈ before ++ after, isBlank c = true := by
        simpa [or_imp, forall_and] using ⟨hbefore, hafter⟩
      simp [trimChars, trimEndChars, List.dropWhile_eq_nil_iff.mpr blank]
    | cons c core =>
      rw [trimChars, dropWhile_blank_append hbefore (by simpa using head), back]

theorem isDigit_iff {c : Char} : c.isDigit = true ↔ '0' ≤ c ∧ c ≤ '9' := by
  simp only [Char.isDigit, Bool.and_eq_true, decide_eq_true_eq]
  rfl

theorem digitValue?_of_isDigit {c : Char} (h : c.isDigit = true) :
    digitValue? c = some (c.toNat - '0'.toNat) := by
  rw [digitValue?, if_pos (isDigit_iff.mp h)]

/-- The digits of radix ten are the ASCII digits. -/
theorem isDigitOf_ten (c : Char) : isDigitOf 10 c = c.isDigit := by
  cases digit : c.isDigit with
  | true =>
    have upper : c.toNat ≤ '9'.toNat := (isDigit_iff.mp digit).2
    have nine : '9'.toNat = 57 := rfl
    have zero : '0'.toNat = 48 := rfl
    simp only [isDigitOf, digitValue?_of_isDigit digit, Option.any_some, decide_eq_true_eq]
    omega
  | false =>
    have other : ¬ ('0' ≤ c ∧ c ≤ '9') := fun h => by simp [isDigit_iff.mpr h] at digit
    rw [isDigitOf, digitValue?, if_neg other]
    split_ifs <;> simp

theorem digitsValue_eq_ofDigitChars {digits : List Char} (h : ∀ c ∈ digits, c.isDigit = true) :
    digitsValue 10 digits = Nat.ofDigitChars 10 digits 0 := by
  rw [Nat.ofDigitChars_eq_foldl, digitsValue]
  refine List.foldl_ext _ _ _ fun value c hc => ?_
  rw [digitValue?_of_isDigit (h c hc), Option.getD_some]

theorem IsNumeral.digitsValue_eq {digits : List Char} {value : Nat} (h : IsNumeral digits value) :
    digitsValue 10 digits = value :=
  (digitsValue_eq_ofDigitChars h.2.1).trans h.2.2

/-- The numerals of radix ten are the rows of ASCII digits. -/
theorem numeral?_eq_some_iff {digits : List Char} {value : Nat} :
    numeral? 10 digits = some value ↔ IsNumeral digits value := by
  have same : digits.all (isDigitOf 10) = true ↔ ∀ c ∈ digits, c.isDigit = true := by
    simp [isDigitOf_ten]
  rw [numeral?, IsNumeral]
  simp only [Bool.and_eq_true, Bool.not_eq_true', List.isEmpty_eq_false_iff, same,
    Option.ite_none_right_eq_some, Option.some.injEq, and_assoc]
  refine and_congr_right fun _ => and_congr_right fun number => ?_
  rw [digitsValue_eq_ofDigitChars number]

end Text

namespace Expression

/-! ## The grammar -/

/-- The characters that end a line. -/
def lineEnds : List Char := ['\n', '\r', '\u2028', '\u2029']

/-- The types that are written as one word, and the words for them. -/
inductive Word : List Char → NativeType → Prop
  | bool : Word "bool".toList .bool
  | void : Word "void".toList .void
  | untyped : Word "anyopaque".toList .untyped
  | float {bits : Nat} (width : bits ∈ [16, 32, 64, 128]) :
      Word ('f' :: Nat.toDigits 10 bits) (.float bits)
  | integer {digits : List Char} {bits : Nat} (signed : Bool) (number : IsNumeral digits bits)
      (range : 1 ≤ bits ∧ bits ≤ 128) :
      Word ((if signed then 'i' else 'u') :: digits) (.int bits signed)
  | reference {name : String} (identifier : isIdentifier name = true) (free : ¬ IsReserved name) :
      Word name.toList (.ref name)

/-- The type that a text denotes. -/
inductive Denotes : List Char → NativeType → Prop
  | word {text core : List Char} {type : NativeType} (trimmed : TrimsTo text core)
      (word : Word core type) : Denotes text type
  | nullable {text rest : List Char} {type : NativeType}
      (trimmed : TrimsTo text ('?' :: '*' :: rest))
      (pointee : Denotes rest type) : Denotes text (.pointer type true)
  | pointer {text rest : List Char} {type : NativeType} (trimmed : TrimsTo text ('*' :: rest))
      (pointee : Denotes rest type) : Denotes text (.pointer type false)
  | array {text digits rest : List Char} {type : NativeType} {length : Nat}
      (trimmed : TrimsTo text ('[' :: (digits ++ ']' :: rest))) (number : IsNumeral digits length)
      (range : 1 ≤ length ∧ length ≤ 2 ^ 53 - 1) (present : rest ≠ [])
      (oneLine : ∀ c ∈ rest, c ∉ lineEnds) (element : Denotes rest type) :
      Denotes text (.array type length)

variable {context : String} {type : NativeType}

theorem isLineEnd_iff {c : Char} : isLineEnd c = true ↔ c ∈ lineEnds := by
  have line : c.toNat = '\u2028'.toNat ↔ c = '\u2028' := Char.toNat_inj
  have paragraph : c.toNat = '\u2029'.toNat ↔ c = '\u2029' := Char.toNat_inj
  simp only [isLineEnd, lineEnds, Bool.or_eq_true, beq_iff_eq, List.mem_cons, List.not_mem_nil,
    or_false, or_assoc]
  exact or_congr_right (or_congr_right (or_congr line paragraph))

/-- The parts of an array: digits between brackets, and something without a line end after
them. -/
theorem arrayParts?_eq_some_iff {text digits element : List Char} :
    arrayParts? text = some (digits, element) ↔
      text = '[' :: (digits ++ ']' :: element) ∧
        (digits ≠ [] ∧ ∀ c ∈ digits, c.isDigit = true) ∧
        element ≠ [] ∧ ∀ c ∈ element, c ∉ lineEnds := by
  have oneLine (element : List Char) :
      element.any isLineEnd = false ↔ ∀ c ∈ element, c ∉ lineEnds := by
    simp [← isLineEnd_iff]
  have digit : isDigitOf 10 = Char.isDigit := funext isDigitOf_ten
  constructor
  · intro h
    unfold arrayParts? at h
    split at h
    case h_2 => cases h
    rename_i rest
    simp only at h
    split at h
    case h_2 => cases h
    rename_i tail behind
    split_ifs at h with accepted
    cases h
    have whole := List.takeWhile_append_dropWhile (p := isDigitOf 10) (l := rest)
    rw [behind] at whole
    simp only [Bool.and_eq_true, Bool.not_eq_true', List.isEmpty_eq_false_iff, oneLine] at accepted
    obtain ⟨⟨present, holds⟩, unbroken⟩ := accepted
    exact ⟨congrArg _ whole.symm, ⟨present, fun c hc => digit ▸ List.mem_takeWhile_imp hc⟩,
      holds, unbroken⟩
  · rintro ⟨rfl, ⟨present, number⟩, holds, unbroken⟩
    have stop : ¬ Char.isDigit ']' = true := by decide
    have front : (digits ++ ']' :: element).takeWhile Char.isDigit = digits := by
      rw [List.takeWhile_append_of_pos number, List.takeWhile_cons_of_neg stop, List.append_nil]
    have back : (digits ++ ']' :: element).dropWhile Char.isDigit = ']' :: element := by
      rw [List.dropWhile_append_of_pos number, List.dropWhile_cons_of_neg stop]
    simp [arrayParts?, digit, front, back, present, holds, (oneLine element).mpr unbroken]

/-! ## Words -/

/-- A word begins like an identifier. -/
theorem Word.isIdentifierStart {text : List Char} (h : Word text type) :
    ∃ c rest, text = c :: rest ∧ Text.isIdentifierStart c = true := by
  cases h with
  | bool | void | untyped | float => exact ⟨_, _, rfl, rfl⟩
  | integer signed => cases signed <;> exact ⟨_, _, rfl, rfl⟩
  | @reference name identifier =>
    rw [isIdentifier] at identifier
    cases htext : name.toList with
    | nil => simp [htext, isIdentifierChars] at identifier
    | cons c rest =>
      rw [htext, isIdentifierChars, Bool.and_eq_true] at identifier
      exact ⟨c, rest, rfl, identifier.1⟩

/-- A word that begins with `u` or `i` is no keyword. -/
theorem ofList_cons_notMem_keywords {letter : Char} (digits : List Char)
    (letters : letter = 'u' ∨ letter = 'i') : String.ofList (letter :: digits) ∉ keywords := by
  intro keyword
  have begins : ∀ word ∈ keywords, word.toList.head? ≠ some 'u' ∧ word.toList.head? ≠ some 'i' := by
    decide
  obtain ⟨notU, notI⟩ := begins _ keyword
  rw [String.toList_ofList] at notU notI
  rcases letters with rfl | rfl
  · exact notU rfl
  · exact notI rfl

theorem word_eq_ok_of_word {text : List Char} (h : Word text type) :
    word context text = .ok type := by
  cases h with
  | bool | void | untyped => rfl
  | float width =>
    simp only [List.mem_cons, List.not_mem_nil, or_false] at width
    rcases width with rfl | rfl | rfl | rfl <;> rfl
  | @integer digits bits signed number range =>
    have numeral : numeral? 10 digits = some bits := numeral?_eq_some_iff.mpr number
    have inRange : ¬ (bits = 0 ∨ maxIntegerBits < bits) := by
      rw [maxIntegerBits]
      omega
    cases signed with
    | false =>
      have free := ofList_cons_notMem_keywords digits (.inl rfl)
      simp only [keywords, List.mem_cons, List.not_mem_nil, or_false, not_or] at free
      simp only [word, free, numeral, number.digitsValue_eq, inRange, Option.isSome_some,
        ↓reduceIte, Bool.false_eq_true]
    | true =>
      have free := ofList_cons_notMem_keywords digits (.inr rfl)
      simp only [keywords, List.mem_cons, List.not_mem_nil, or_false, not_or] at free
      simp only [word, free, numeral, number.digitsValue_eq, inRange, Option.isSome_some,
        ↓reduceIte]
  | @reference name identifier free =>
    have noKeyword : name ∉ keywords := fun h => free (.inl h)
    simp only [keywords, List.mem_cons, List.not_mem_nil, or_false, not_or] at noKeyword
    simp only [word, String.ofList_toList, noKeyword, if_false]
    rw [isIdentifier] at identifier
    split
    · rename_i digits htext
      have noWidth : ¬ (numeral? 10 digits).isSome = true :=
        fun number => free (.inr ⟨'u', digits, .inl rfl, htext, number⟩)
      rw [if_neg noWidth, if_pos identifier]
    · rename_i digits htext
      have noWidth : ¬ (numeral? 10 digits).isSome = true :=
        fun number => free (.inr ⟨'i', digits, .inr rfl, htext, number⟩)
      rw [if_neg noWidth, if_pos identifier]
    · rw [if_pos identifier]

/-- Every keyword is a word. -/
theorem exists_word_of_keyword {keyword : String} (h : keyword ∈ keywords) :
    ∃ type, Word keyword.toList type := by
  simp only [keywords, List.mem_cons, List.not_mem_nil, or_false] at h
  rcases h with rfl | rfl | rfl | rfl | rfl | rfl | rfl
  · exact ⟨_, .bool⟩
  · exact ⟨_, .void⟩
  · exact ⟨_, .untyped⟩
  · exact ⟨_, @Word.float 16 (by decide)⟩
  · exact ⟨_, @Word.float 32 (by decide)⟩
  · exact ⟨_, @Word.float 64 (by decide)⟩
  · exact ⟨_, @Word.float 128 (by decide)⟩

theorem word_of_word_eq_ok {text : List Char} (h : word context text = .ok type) :
    Word text type := by
  by_cases keyword : String.ofList text ∈ keywords
  · obtain ⟨type', isWord⟩ := exists_word_of_keyword keyword
    rw [String.toList_ofList] at isWord
    have read : word context text = .ok type' := word_eq_ok_of_word isWord
    obtain rfl : type' = type := Except.ok.inj (read.symm.trans h)
    exact isWord
  · rcases word_eq_ok_of_not_keyword h keyword with
      ⟨letter, digits, letters, rfl, number, rfl, range⟩ | ⟨free, name, rfl⟩
    · obtain ⟨bits, number⟩ := Option.isSome_iff_exists.mp number
      have numeral := numeral?_eq_some_iff.mp number
      rw [numeral.digitsValue_eq] at range ⊢
      rcases letters with rfl | rfl
      · exact .integer false numeral range
      · exact .integer true numeral range
    · have reference : Word (String.ofList text).toList (.ref (String.ofList text)) :=
        .reference (by rwa [isIdentifier, String.toList_ofList]) free
      rwa [String.toList_ofList] at reference

theorem word_eq_ok_iff {text : List Char} : word context text = .ok type ↔ Word text type :=
  ⟨word_of_word_eq_ok, word_eq_ok_of_word⟩

/-! ## The reader's equations -/

section Equations

variable {source rest : List Char}

theorem parseChars_of_nullable (h : trimChars source = '?' :: '*' :: rest) :
    parseChars context source = (parseChars context rest).map (.pointer · true) := by
  rw [parseChars]
  split <;> rename_i trimmed <;> rw [h] at trimmed <;> cases trimmed
  · rfl
  · rename_i notNullable
    exact (notNullable rest rfl).elim
  · rename_i notOptional _ _
    exact (notOptional rfl).elim

theorem parseChars_of_pointer (h : trimChars source = '*' :: rest) :
    parseChars context source = (parseChars context rest).map (.pointer · false) := by
  rw [parseChars]
  split <;> rename_i trimmed <;> rw [h] at trimmed <;> cases trimmed
  · rfl
  · rename_i notPointer _
    exact (notPointer rfl).elim

theorem parseChars_of_array {digits : List Char} {length : Nat}
    (h : trimChars source = '[' :: (digits ++ ']' :: rest)) (number : IsNumeral digits length)
    (range : 1 ≤ length ∧ length ≤ 2 ^ 53 - 1) (present : rest ≠ [])
    (oneLine : ∀ c ∈ rest, c ∉ lineEnds) :
    parseChars context source = (parseChars context rest).map (.array · length) := by
  have parts := arrayParts?_eq_some_iff.mpr ⟨rfl, ⟨number.1, number.2.1⟩, present, oneLine⟩
  have inRange : ¬ (length = 0 ∨ Binary64.maxSafe < length) := by
    have safe : Binary64.maxSafe = 2 ^ 53 - 1 := rfl
    omega
  rw [parseChars]
  split <;> rename_i trimmed <;> rw [h] at trimmed <;> cases trimmed
  split <;> rename_i found <;> rw [parts] at found <;> cases found
  simp only [number.digitsValue_eq, if_neg inRange]

/-- What begins like an identifier is neither a pointer nor an array. -/
theorem parseChars_of_isIdentifierStart {c : Char} (h : trimChars source = c :: rest)
    (start : Text.isIdentifierStart c = true) :
    parseChars context source = word context (c :: rest) := by
  have noArray : arrayParts? (c :: rest) = none := by
    rw [arrayParts?]
    rintro _ same
    cases same
    cases start
  rw [parseChars]
  split <;> rename_i trimmed <;> rw [h] at trimmed <;> cases trimmed
  case h_2 | h_3 | h_4 => cases start
  split
  · rename_i found
    rw [noArray] at found
    cases found
  · rfl

theorem parseChars_of_word {core : List Char} (h : trimChars source = core)
    (isWord : Word core type) : parseChars context source = word context core := by
  obtain ⟨c, text, rfl, start⟩ := isWord.isIdentifierStart
  exact parseChars_of_isIdentifierStart h start

end Equations

theorem denotes_of_parseChars {source : List Char} (h : parseChars context source = .ok type) :
    Denotes source type := by
  fun_induction parseChars context source generalizing type with
  | case1 => cases h
  | case2 source rest trimmed ih =>
    obtain ⟨inner, read, rfl⟩ := map_eq_ok.mp h
    exact .nullable (trimChars_eq_iff.mp trimmed) (ih read)
  | case3 => cases h
  | case4 source rest trimmed ih =>
    obtain ⟨inner, read, rfl⟩ := map_eq_ok.mp h
    exact .pointer (trimChars_eq_iff.mp trimmed) (ih read)
  | case5 => cases h
  | case6 =>
    rename_i trimmed digits rest parts length range ih
    obtain ⟨inner, read, rfl⟩ := map_eq_ok.mp h
    obtain ⟨whole, number, present, oneLine⟩ := arrayParts?_eq_some_iff.mp parts
    have safe : Binary64.maxSafe = 2 ^ 53 - 1 := rfl
    have numeral : IsNumeral digits (digitsValue 10 digits) :=
      ⟨number.1, number.2, (digitsValue_eq_ofDigitChars number.2).symm⟩
    exact .array (trimChars_eq_iff.mp (trimmed.trans whole)) numeral (by omega) present oneLine
      (ih read)
  | case7 =>
    rename_i trimmed _
    exact .word (trimChars_eq_iff.mp trimmed) (word_eq_ok_iff.mp h)

/-- A text is read as a type exactly if it denotes the type. -/
theorem parseChars_eq_ok_iff {source : List Char} :
    parseChars context source = .ok type ↔ Denotes source type := by
  refine ⟨denotes_of_parseChars, fun h => ?_⟩
  induction h with
  | word trimmed isWord =>
    rw [parseChars_of_word (trimChars_eq_iff.mpr trimmed) isWord]
    exact word_eq_ok_iff.mpr isWord
  | nullable trimmed _ ih => rw [parseChars_of_nullable (trimChars_eq_iff.mpr trimmed), ih]; rfl
  | pointer trimmed _ ih => rw [parseChars_of_pointer (trimChars_eq_iff.mpr trimmed), ih]; rfl
  | array trimmed number range present oneLine _ ih =>
    rw [parseChars_of_array (trimChars_eq_iff.mpr trimmed) number range present oneLine, ih]
    rfl

/-! ## Texts that denote nothing -/

theorem Denotes.ne_nil {text : List Char} (h : Denotes text type) : text ≠ [] := by
  rintro rfl
  have read : parseChars "" [] = .ok type := parseChars_eq_ok_iff.mpr h
  rw [parseChars] at read
  cases read

theorem word_invalid (context : String) (text : List Char) :
    OnlyFaults (·.category = .validation) (word context text) := by
  unfold word
  refine .ite (.ok _) <| .ite (.ok _) <| .ite (.ok _) <| .ite (.ok _) <| .ite (.ok _) <|
    .ite (.ok _) <| .ite (.ok _) ?_
  split
  · exact .ite (.ite (.error rfl) (.ok _)) (.ite (.ok _) (.error rfl))
  · exact .ite (.ite (.error rfl) (.ok _)) (.ite (.ok _) (.error rfl))
  · exact .ite (.ok _) (.error rfl)

theorem parseChars_invalid (context : String) (source : List Char) :
    OnlyFaults (·.category = .validation) (parseChars context source) := by
  fun_induction parseChars context source with
  | case1 => exact .error rfl
  | case2 _ _ _ ih => exact .map _ ih
  | case3 => exact .error rfl
  | case4 _ _ _ ih => exact .map _ ih
  | case5 => exact .error rfl
  | case6 => rename_i ih; exact .map _ ih
  | case7 => exact word_invalid _ _

/-- A text denotes one type, and is read as it, or denotes none, and is refused as invalid. -/
theorem parse_eq_denoted (source context : String) :
    (∃ type, parse source context = .ok type ∧ Denotes source.toList type ∧
      ∀ other, Denotes source.toList other → other = type) ∨
    ∃ fault, parse source context = .error fault ∧ fault.category = .validation ∧
      ∀ type, ¬ Denotes source.toList type := by
  cases read : parse source context with
  | ok type =>
    refine .inl ⟨type, rfl, parseChars_eq_ok_iff.mp read, fun other denoted => ?_⟩
    have same : parse source context = .ok other := parseChars_eq_ok_iff.mpr denoted
    exact Except.ok.inj (same.symm.trans read)
  | error fault =>
    refine .inr ⟨fault, rfl, parseChars_invalid context source.toList fault read,
      fun type denoted => ?_⟩
    have accepted : parse source context = .ok type := parseChars_eq_ok_iff.mpr denoted
    cases accepted.symm.trans read

example : parse "?* [02]u8 " "t" = .ok (.pointer (.array (.int 8 false) 2) true) := by cbv

example : (∃ fault, parse "[2]\nu8" "t" = .error fault) := ⟨_, by cbv⟩

end Expression
end NativeBindings
