import NativeBindings.Proofs.DecodedDocuments
import NativeBindings.Proofs.WrittenTypes

/-!
# Names that mean something else

A declaration may have any identifier for its name, and a type expression may be any identifier too.
But some identifiers are words of their own (`Expression.IsReserved`): the keywords, and `u` or `i`
with nothing but digits behind it. The decoder of declarations does not refuse them.

* `Expression.parse_eq_ref_iff`: an identifier is read as the reference to its name exactly if it is
  not reserved.
* `Expression.parse_of_isReserved`: a reserved one is read as a type of its own, or is an integer of
  a width that does not exist.
* `Decode.declared_name_is_reference_iff`: both, for the names that a document declares, with what
  becomes of a field that is written with such a name.
-/
namespace NativeBindings

open Text

namespace Expression

variable {name : String}

theorem parse_of_isIdentifier (ident : isIdentifier name = true) (context : String) :
    parse name context = word context name.toList := by
  have trimmed : trimChars name.toList = name.toList := trimChars_eq_iff.mpr <|
    trimsTo_self fun c hc => not_blank_of_isIdentifierPart (isIdentifierPart_of_mem ident hc)
  rw [isIdentifier] at ident
  rw [parse]
  cases htext : name.toList with
  | nil => simp [htext, isIdentifierChars] at ident
  | cons c rest =>
    rw [htext, isIdentifierChars, Bool.and_eq_true] at ident
    exact parseChars_of_isIdentifierStart (htext ▸ trimmed) ident.1

/-- An identifier is read as the reference to its name exactly if it is not reserved. -/
theorem parse_eq_ref_iff (ident : isIdentifier name = true) (context : String) :
    parse name context = .ok (.ref name) ↔ ¬ IsReserved name :=
  ⟨fun read => (hasNotation_of_parse read).2,
    fun free => @parse_text (.ref name) ⟨ident, free⟩ context⟩

theorem word_of_width {letter : Char} {digits : List Char} {bits : Nat}
    (letters : letter = 'u' ∨ letter = 'i') (number : IsNumeral digits bits) (context : String) :
    word context (letter :: digits) =
      if 1 ≤ bits ∧ bits ≤ 128 then .ok (.int bits (letter == 'i'))
      else .error (.integerWidthOutOfRange (String.ofList (letter :: digits)) context) := by
  have free := ofList_cons_notMem_keywords digits letters
  have numeral := numeral?_eq_some_iff.mpr number
  have range : (bits = 0 ∨ maxIntegerBits < bits) ↔ ¬ (1 ≤ bits ∧ bits ≤ 128) := by
    rw [maxIntegerBits]
    omega
  simp only [keywords, List.mem_cons, List.not_mem_nil, or_false, not_or] at free
  rcases letters with rfl | rfl
  all_goals
    simp only [word, free, numeral, number.digitsValue_eq, range, Option.isSome_some, ↓reduceIte,
      ite_not]
    rfl

/-- A reserved name is read as the same type wherever it stands, and that is no reference, or it is
an integer of a width that there is not. -/
theorem parse_of_isReserved (ident : isIdentifier name = true) (reserved : IsReserved name) :
    (∃ type : NativeType, type.identity? = none ∧ ∀ context, parse name context = .ok type) ∨
      ∀ context, parse name context = .error (.integerWidthOutOfRange name context) := by
  simp only [parse_of_isIdentifier ident]
  rcases reserved with keyword | ⟨letter, digits, letters, htext, number⟩
  · simp only [keywords, List.mem_cons, List.not_mem_nil, or_false] at keyword
    left
    rcases keyword with rfl | rfl | rfl | rfl | rfl | rfl | rfl
    · exact ⟨.bool, rfl, fun _ => rfl⟩
    · exact ⟨.void, rfl, fun _ => rfl⟩
    · exact ⟨.untyped, rfl, fun _ => rfl⟩
    · exact ⟨.float 16, rfl, fun _ => rfl⟩
    · exact ⟨.float 32, rfl, fun _ => rfl⟩
    · exact ⟨.float 64, rfl, fun _ => rfl⟩
    · exact ⟨.float 128, rfl, fun _ => rfl⟩
  · obtain ⟨bits, number⟩ := Option.isSome_iff_exists.mp number
    have read := word_of_width letters (numeral?_eq_some_iff.mp number)
    have same : String.ofList (letter :: digits) = name := by rw [← htext, String.ofList_toList]
    rw [same] at read
    rw [htext]
    by_cases range : 1 ≤ bits ∧ bits ≤ 128
    · exact .inl ⟨.int bits (letter == 'i'), rfl, fun context => by rw [read, if_pos range]⟩
    · exact .inr fun context => by rw [read, if_neg range]

end Expression

namespace Decode

open Expression

/-- The type of a field is what its node's type expression is read as. -/
theorem parse_of_field {owner source : String} {node : Value} {index : Nat} {f : Field NativeType}
    (h : field owner node index = .ok f) (written : node.get? "type" = some (.text source)) :
    ∃ context, parse source context = .ok f.type := by
  obtain ⟨node, same, h⟩ := bind_eq_ok.mp h
  obtain rfl := Option.some.inj (record_eq_ok same)
  obtain ⟨name, -, h⟩ := bind_eq_ok.mp h
  obtain ⟨type, typeRead, h⟩ := bind_eq_ok.mp h
  obtain ⟨text, textRead, read⟩ := bind_eq_ok.mp typeRead
  rw [written] at textRead
  obtain rfl : source = text := by simpa using text_eq_ok textRead
  refine ⟨_, read.trans (congrArg Except.ok ?_)⟩
  split at h
  · cases h
    rfl
  · cases h
    rfl
  · cases h

/-- The name of a declaration that a document holds is read as the reference to the declaration
exactly if it is not reserved. A reserved one is read as a type of its own wherever it stands, or as
none, and a field that is written with it is not of the declaration. References lead to the
declaration in every registry that holds it. -/
theorem declared_name_is_reference_iff {root : Value} {doc : Document} {d : Declaration}
    (decoded : document root = .ok doc) (declared : d ∈ doc.types) :
    (∀ context, parse d.name context = .ok (.ref d.name) ↔ ¬ IsReserved d.name) ∧
    (IsReserved d.name →
      (∃ type : NativeType, type.identity? = none ∧
        ∀ context, parse d.name context = .ok type) ∨
      ∀ context, parse d.name context = .error (.integerWidthOutOfRange d.name context)) ∧
    (∀ owner node index f, field owner node index = .ok f →
      node.get? "type" = some (.text d.name) →
      (f.type = .ref d.name ↔ ¬ IsReserved d.name)) ∧
    ∀ declarations types, Registry.build declarations = .ok types → d ∈ declarations →
      types.find? d.name = some d := by
  have ident := ((document_eq_ok decoded).1.types d declared).name
  refine ⟨parse_eq_ref_iff ident, parse_of_isReserved ident, ?_, ?_⟩
  · intro owner node index f fieldDecoded written
    obtain ⟨context, read⟩ := parse_of_field fieldDecoded written
    rw [← parse_eq_ref_iff ident context, read, Except.ok.injEq]
  · intro declarations types accepted listed
    obtain ⟨made, -⟩ := Registry.build_eq_ok_iff.mp accepted
    exact Registry.find?_eq_some_iff.mpr ⟨made ▸ listed, rfl⟩

/-- The node of a struct with one field, of a type that is declared as an integer of 32 bits. -/
def sizedRecord (size : String) : Value :=
  .map [("schema", .map [("name", .text "sizes"), ("version", .text "1")]),
    ("types", .list [
      .map [("name", .text size), ("kind", .map [("alias", .text "u32")])],
      .map [("name", .text "record_t"), ("kind", .map [("struct", .map [("fields", .list [
        .map [("name", .text "size"), ("type", .text size)]])])])]])]

def sizedDocument (size : String) (type : NativeType) : Document where
  metadata := ⟨"sizes", 1, none⟩
  types := [⟨size, .int 32 false⟩, ⟨"record_t", .struct .cAbi [⟨"size", type, false⟩]⟩]
  mappings := []
  operations := []

theorem declared_name_is_reference_iff_size :
    document (sizedRecord "size_t") = .ok (sizedDocument "size_t" (.ref "size_t")) ∧
    ∀ context, parse "size_t" context = .ok (.ref "size_t") := by
  have decoded : document (sizedRecord "size_t") =
      .ok (sizedDocument "size_t" (.ref "size_t")) := by with_unfolding_all rfl
  have free : ¬ IsReserved "size_t" := by
    rintro (keyword | ⟨letter, digits, rfl | rfl, same, -⟩)
    · exact absurd keyword (by decide)
    · cases same
    · cases same
  refine ⟨decoded, fun context => ?_⟩
  exact ((declared_name_is_reference_iff (d := ⟨"size_t", .int 32 false⟩) decoded
    List.mem_cons_self).1 context).mpr free

/-- A declaration with the name of an integer is accepted, and a field that is written with the name
is of the integer. -/
theorem declared_name_read_as_integer :
    document (sizedRecord "u8") = .ok (sizedDocument "u8" (.int 8 false)) ∧
    (∀ context, parse "u8" context = .ok (.int 8 false) ∧
      parse "u8" context ≠ .ok (.ref "u8")) ∧
    ∃ types, Registry.build (sizedDocument "u8" (.int 8 false)).types = .ok types ∧
      types.find? "u8" = some ⟨"u8", .int 32 false⟩ := by
  refine ⟨by with_unfolding_all rfl, fun context => ?_, _, rfl, rfl⟩
  have width : IsNumeral ['8'] 8 := isNumeral_toDigits 8
  have read : parse "u8" context = .ok (.int 8 false) := by
    rw [parse_of_isIdentifier (by decide)]
    exact word_of_width (.inl rfl) width context
  exact ⟨read, by simp [read]⟩

end Decode
end NativeBindings
