import NativeBindings.Decimal
import NativeBindings.Fault
import NativeBindings.Text

/-!
# Type expressions: reading

The notation of types in documents: `u<N>` and `i<N>` integers, `f16` to `f128`, `bool`, `void`,
`anyopaque`, `[N]T` arrays, `*T` pointers, `?*T` nullable pointers and the names of declarations.
Blanks may stand around every type. What follows an array's length may not hold a line end.
-/
namespace NativeBindings.Expression

open Text

/-- The widest integer that has a notation (`MAX_INT_BITS`). -/
def maxIntegerBits : Nat := 128

/-- A line end: none may stand in the element of an array. -/
def isLineEnd (c : Char) : Bool :=
  c == '\n' || c == '\r' || c.toNat == 0x2028 || c.toNat == 0x2029

/-- Splits `[digits]element` into the digits and the element. -/
def arrayParts? : List Char → Option (List Char × List Char)
  | '[' :: text =>
    let digits := text.takeWhile (isDigitOf 10)
    match text.dropWhile (isDigitOf 10) with
    | ']' :: element =>
      if !digits.isEmpty && !element.isEmpty && !element.any isLineEnd then some (digits, element)
      else none
    | _ => none
  | _ => none

/-- The notations that are not built from others: keywords, numbers of a width, names. -/
def word (context : String) (text : List Char) : Except Fault NativeType :=
  let expression := String.ofList text
  let integer (digits : List Char) (signed : Bool) : Except Fault NativeType :=
    let bits := digitsValue 10 digits
    if bits = 0 ∨ maxIntegerBits < bits then
      .error (.integerWidthOutOfRange expression context)
    else .ok (.int bits signed)
  let other : Except Fault NativeType :=
    if isIdentifierChars text then .ok (.ref expression)
    else .error (.unreadableExpression expression context)
  if expression = "bool" then .ok .bool
  else if expression = "void" then .ok .void
  else if expression = "anyopaque" then .ok .untyped
  else if expression = "f16" then .ok (.float 16)
  else if expression = "f32" then .ok (.float 32)
  else if expression = "f64" then .ok (.float 64)
  else if expression = "f128" then .ok (.float 128)
  else match text with
    | 'u' :: digits => if (numeral? 10 digits).isSome then integer digits false else other
    | 'i' :: digits => if (numeral? 10 digits).isSome then integer digits true else other
    | _ => other

theorem length_trimEndChars_le (cs : List Char) : (trimEndChars cs).length ≤ cs.length := by
  simpa [trimEndChars] using (List.dropWhile_suffix (l := cs.reverse) isBlank).length_le

theorem length_trimChars_le (cs : List Char) : (trimChars cs).length ≤ cs.length :=
  Nat.le_trans (length_trimEndChars_le _) (List.dropWhile_suffix isBlank).length_le

theorem length_lt_of_arrayParts? {text digits element : List Char}
    (h : arrayParts? text = some (digits, element)) : element.length < text.length := by
  unfold arrayParts? at h
  split at h
  · rename_i rest
    have drop := (List.dropWhile_suffix (l := rest) (isDigitOf 10)).length_le
    simp only at h
    split at h
    · rename_i tail eq
      rw [eq] at drop
      split at h
      · cases h; simp at drop ⊢; omega
      · cases h
    · cases h
  · cases h

/-- Reads the characters of a type expression. `context` says in messages where it stands. -/
def parseChars (context : String) (source : List Char) : Except Fault NativeType :=
  match _text : trimChars source with
  | [] => .error (.emptyExpression context)
  | '?' :: '*' :: pointee => (parseChars context pointee).map (.pointer · true)
  | '?' :: rest => .error (.optionalWithoutPointer (String.ofList ('?' :: rest)) context)
  | '*' :: pointee => (parseChars context pointee).map (.pointer · false)
  | c :: rest =>
    match _parts : arrayParts? (c :: rest) with
    | some (digits, element) =>
      let length := digitsValue 10 digits
      if length = 0 ∨ Binary64.maxSafe < length then
        .error (.arrayLengthOutOfRange (String.ofList (c :: rest)) context)
      else (parseChars context element).map (.array · length)
    | none => word context (c :: rest)
termination_by source.length
decreasing_by
  all_goals have bound := length_trimChars_le source
  all_goals rw [_text] at bound
  · simp at bound; omega
  · simp at bound; omega
  · have := length_lt_of_arrayParts? _parts
    simp at bound this; omega

/-- Reads a type expression (`parseTypeExpression`). -/
def parse (source context : String) : Except Fault NativeType :=
  parseChars context source.toList

end NativeBindings.Expression
