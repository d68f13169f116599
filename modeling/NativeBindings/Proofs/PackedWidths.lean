import NativeBindings.Proofs.FollowedReferences
import Mathlib.Algebra.Ring.Int.Defs
import Mathlib.Algebra.Ring.Nat

/-!
# Widths in packed structs

What the width of a type in a packed struct is (`Registry.HasWidth`): the walk that finds it is told
where it stands, for its messages, and gives the same width everywhere (`HasWidth.packedWidth`). A
packed struct whose fields have widths has their sum as its own (`packedFieldsWidth_eq_ok_iff`).

Sums are rounded to doubles, addition by addition. Rounding a sum that is not safe never brings it
back among the safe ones (`Binary64.maxSafe_lt_nearest`), so a width that is safe is the exact sum
(`roundedSum_eq_sum`).
-/
namespace NativeBindings

/-! ## Sums of doubles -/

namespace Binary64

theorem le_roundHalfEven (num den : Nat) : num / den ≤ roundHalfEven num den := by
  unfold roundHalfEven
  dsimp only
  split_ifs <;> omega

/-- The mantissa of a number of more than 52 bits, cut off after the first 53. -/
theorem leastMantissa_le_div {n bits : Nat} (h : 2 ^ (bits + 52) ≤ n) :
    leastMantissa ≤ n / 2 ^ bits := by
  rw [Nat.le_div_iff_mul_le (Nat.two_pow_pos bits)]
  calc leastMantissa * 2 ^ bits = 2 ^ (bits + 52) := by
        rw [Nat.pow_add, Nat.mul_comm]
        rfl
    _ ≤ n := h

theorem scaled_natCast (num den e : Nat) : scaled num den e = (num, den * 2 ^ e) := by
  rw [scaled, if_pos (Int.natCast_nonneg e)]
  rfl

theorem scaled_neg_succ (num den e : Nat) :
    scaled num den (-(e + 1 : Nat)) = (num * 2 ^ (e + 1), den) := by
  rw [scaled, if_neg (by omega), Int.neg_neg]
  rfl

/-- A number beyond the safe ones is rounded to one with a full mantissa and an exponent. -/
theorem ofRatio_of_unsafe {n : Nat} (h : maxSafe < n) : ofRatio false n 1 = infinite false ∨
    ∃ mantissa exponent, leastMantissa ≤ mantissa ∧
      ofRatio false n 1 = finite false mantissa (exponent + 1 : Nat) := by
  have large : 2 ^ 53 ≤ n := h
  -- The number has `bits + 54` bits, and the guess cuts off all but the first 53 of them.
  obtain ⟨bits, log⟩ : ∃ bits, n.log2 = bits + 53 :=
    ⟨n.log2 - 53, by have := (Nat.le_log2 (by omega)).mpr large; omega⟩
  have lower : 2 ^ (bits + 1 + 52) ≤ n := log ▸ Nat.log2_self_le (by omega)
  have full := leastMantissa_le_div lower
  have guess : ((n.log2 : Int) - (Nat.log2 1 : Int) - 52) = (bits + 1 : Nat) := by
    rw [log, show Nat.log2 1 = 0 from rfl]
    omega
  have above : max minExponent ((bits + 1 : Nat) : Int) = (bits + 1 : Nat) := by
    simp only [minExponent]
    omega
  unfold ofRatio
  simp only [guess, scaled_natCast, Nat.one_mul, show n ≠ 0 by omega, if_false, Nat.not_lt.mpr full,
    above]
  -- Rounding up may carry into a bit more, which goes to the exponent.
  by_cases carried : roundHalfEven n (2 ^ (bits + 1)) = maxSafe + 1
  · simp only [carried, if_true]
    split_ifs
    · exact .inl rfl
    · exact .inr ⟨leastMantissa, bits + 1, Nat.le_refl _, rfl⟩
  · simp only [carried, if_false]
    split_ifs
    · exact .inl rfl
    · exact .inr ⟨_, bits, full.trans (le_roundHalfEven _ _), rfl⟩

theorem toInt?_finite_succ (mantissa exponent : Nat) :
    (finite false mantissa (exponent + 1 : Nat)).toInt? =
      some ((mantissa * 2 ^ (exponent + 1) : Nat) : Int) := by
  simp only [toInt?, scaled_neg_succ, Nat.mod_one, Nat.div_one, if_true]
  rfl

/-- Rounding does not make an integer safe. -/
theorem maxSafe_lt_nearest {n : Int} (h : maxSafe < n) : maxSafe < nearest n := by
  have large : maxSafe < n.natAbs := by omega
  have notSafe : isSafe n = false := by simpa [isSafe] using large
  have positive : decide (n < 0) = false := by simpa using (by omega : 0 ≤ n)
  rw [nearest, notSafe, ofInt, positive, if_neg (by decide)]
  rcases ofRatio_of_unsafe large with infinite | ⟨mantissa, exponent, full, finite⟩
  · simpa [infinite, toInt?] using h
  · rw [finite, toInt?_finite_succ, Option.getD_some, Int.ofNat_lt]
    calc maxSafe < leastMantissa * 2 ^ 1 := by decide
      _ ≤ mantissa * 2 ^ (exponent + 1) :=
        Nat.mul_le_mul full (Nat.pow_le_pow_right (by decide) (Nat.le_add_left 1 exponent))

end Binary64

/-- The sum of widths and what is counted before them, rounded after every addition. -/
def roundedSum (before : Int) (widths : List Int) : Int :=
  widths.foldl (fun total width => Binary64.nearest (total + width)) before

/-- A sum that is not safe stays so. -/
theorem maxSafe_lt_roundedSum {before : Int} {widths : List Int} (h : Binary64.maxSafe < before)
    (counted : ∀ width ∈ widths, 0 ≤ width) : Binary64.maxSafe < roundedSum before widths := by
  induction widths generalizing before with
  | nil => exact h
  | cons width rest ih =>
    rw [List.forall_mem_cons] at counted
    exact ih (Binary64.maxSafe_lt_nearest (by omega)) counted.2

/-- A rounded sum of widths that is safe is their sum. -/
theorem roundedSum_eq_sum {before : Int} {widths : List Int} (start : 0 ≤ before)
    (counted : ∀ width ∈ widths, 0 ≤ width) (h : roundedSum before widths ≤ Binary64.maxSafe) :
    roundedSum before widths = before + widths.sum := by
  induction widths generalizing before with
  | nil => simp [roundedSum]
  | cons width rest ih =>
    rw [List.forall_mem_cons] at counted
    -- Had the sum left the safe numbers here, it would not have come back.
    have first : before + width ≤ Binary64.maxSafe := by
      by_contra large
      have rounded := Binary64.maxSafe_lt_nearest (Int.not_le.mp large)
      have tooLarge := maxSafe_lt_roundedSum rounded counted.2
      rw [roundedSum, List.foldl_cons] at h
      exact Int.not_le.mpr tooLarge h
    have exact : Binary64.nearest (before + width) = before + width :=
      Binary64.nearest_of_isSafe (by simp only [Binary64.isSafe, decide_eq_true_eq]; omega)
    have step : roundedSum before (width :: rest) = roundedSum (before + width) rest := by
      rw [roundedSum, List.foldl_cons, exact, roundedSum]
    rw [step] at h ⊢
    rw [ih (by omega) counted.2 h, List.sum_cons]
    omega

/-! ## Widths -/

mutual

/-- If what references give does not depend on where they stand, neither does the width. -/
theorem packedWidthWith_eq_ok_of_context {onReference : OnReference Int}
    (free : ∀ name context context' width,
      onReference name context = .ok width → onReference name context' = .ok width) :
    ∀ (type : NativeType) (context context' : String) (width : Int),
      packedWidthWith onReference type context = .ok width →
      packedWidthWith onReference type context' = .ok width
  | .bool, _, _, _, h | .enum _ _, _, _, _, h => by
    rw [packedWidthWith] at h ⊢
    exact h
  | .int bits signed, _, _, _, h => by
    cases signed with
    | true => cases h
    | false => exact h
  | .struct layout fields, context, context', width, h => by
    cases layout with
    | packed => exact packedFieldsWidthWith_eq_ok_of_context free fields 0 context context' width h
    | cAbi | auto => cases h
  | .ref name, context, context', width, h => free name context context' width h
  | .void, _, _, _, h | .untyped, _, _, _, h | .float _, _, _, _, h => by cases h
  | .array _ _, _, _, _, h | .pointer _ _, _, _, _, h => by cases h

theorem packedFieldsWidthWith_eq_ok_of_context {onReference : OnReference Int}
    (free : ∀ name context context' width,
      onReference name context = .ok width → onReference name context' = .ok width) :
    ∀ (fields : Fields) (before : Int) (context context' : String) (width : Int),
      packedFieldsWidthWith onReference before fields context = .ok width →
      packedFieldsWidthWith onReference before fields context' = .ok width
  | [], _, _, _, _, h => h
  | ⟨name, type, _⟩ :: rest, before, context, context', width, h => by
    simp only [packedFieldsWidthWith, bind_eq_ok] at h ⊢
    obtain ⟨first, measured, h⟩ := h
    exact ⟨first, packedWidthWith_eq_ok_of_context free type _ _ first measured,
      packedFieldsWidthWith_eq_ok_of_context free rest _ context context' width h⟩

end

namespace Registry

variable {types : Registry} {type : NativeType} {fields : Fields} {widths : List Int}

theorem packedReference_eq_ok_of_context (types : Registry) (depth : Nat) :
    ∀ name context context' width, types.packedReference depth name context = .ok width →
      types.packedReference depth name context' = .ok width := by
  induction depth with
  | zero =>
    intro name context context' width h
    simp only [packedReference, bind_eq_ok] at h
    obtain ⟨d, -, h⟩ := h
    cases h
  | succ depth ih =>
    intro name context context' width h
    simp only [packedReference, bind_eq_ok] at h ⊢
    obtain ⟨d, found, h⟩ := h
    exact ⟨d, found, packedWidthWith_eq_ok_of_context ih d.type context context' width h⟩

/-- A type is a number of bits wide in a packed struct. -/
def HasWidth (types : Registry) (type : NativeType) (width : Int) : Prop :=
  ∃ context, types.packedWidth type context = .ok width

/-- The width that a type has is found wherever the type stands. -/
theorem HasWidth.packedWidth {width : Int} (h : types.HasWidth type width) (context : String) :
    types.packedWidth type context = .ok width := by
  obtain ⟨context', found⟩ := h
  exact packedWidthWith_eq_ok_of_context (types.packedReference_eq_ok_of_context types.size)
    type context' context width found

theorem HasWidth.unique {width width' : Int} (h : types.HasWidth type width)
    (h' : types.HasWidth type width') : width = width' :=
  Except.ok.inj ((h.packedWidth "").symm.trans (h'.packedWidth ""))

/-- The fields of a struct are as wide as a list says, one by one. -/
def HaveWidths (types : Registry) (fields : Fields) (widths : List Int) : Prop :=
  List.Forall₂ (fun field width => types.HasWidth field.type width) fields widths

theorem packedFieldsWidthWith_eq_ok_iff {before total : Int} {context : String} :
    packedFieldsWidthWith (types.packedReference types.size) before fields context = .ok total ↔
      ∃ widths, types.HaveWidths fields widths ∧ total = roundedSum before widths := by
  induction fields generalizing before with
  | nil => simp [packedFieldsWidthWith, HaveWidths, roundedSum, eq_comm]
  | cons f rest ih =>
    simp only [packedFieldsWidthWith, bind_eq_ok, ih, HaveWidths, List.forall₂_cons_left_iff]
    constructor
    · rintro ⟨width, first, widths, others, rfl⟩
      exact ⟨width :: widths, ⟨width, widths, ⟨_, first⟩, others, rfl⟩, rfl⟩
    · rintro ⟨_, ⟨width, widths, first, others, rfl⟩, rfl⟩
      exact ⟨width, first.packedWidth _, widths, others, rfl⟩

/-- A packed struct has a width exactly if its fields do, and then it is their sum. -/
theorem packedFieldsWidth_eq_ok_iff {total : Int} {context : String} :
    types.packedFieldsWidth fields context = .ok total ↔
      ∃ widths, types.HaveWidths fields widths ∧ total = roundedSum 0 widths :=
  packedFieldsWidthWith_eq_ok_iff

theorem HaveWidths.unique (h : types.HaveWidths fields widths) {widths' : List Int}
    (h' : types.HaveWidths fields widths') : widths = widths' := by
  induction h generalizing widths' with
  | nil =>
    cases h'
    rfl
  | cons first _ ih =>
    cases h' with
    | cons first' rest' => rw [first.unique first', ih rest']

/-- To ask something of the widths of fields, whatever they are, is to ask it of the list of
them. -/
theorem HaveWidths.forall_iff {P : Int → Prop} (h : types.HaveWidths fields widths) :
    (∀ f ∈ fields, ∀ width, types.HasWidth f.type width → P width) ↔
      ∀ width ∈ widths, P width := by
  induction h with
  | nil => simp
  | @cons f width rest widths first _ ih =>
    have own : (∀ width', types.HasWidth f.type width' → P width') ↔ P width :=
      ⟨fun each => each width first, fun holds _ other => first.unique other ▸ holds⟩
    rw [List.forall_mem_cons, List.forall_mem_cons, ih, own]

/-! ### By kind of type -/

@[simp]
theorem hasWidth_bool_iff {width : Int} : types.HasWidth .bool width ↔ width = 1 := by
  simp [HasWidth, packedWidth, packedWidthWith, eq_comm]

@[simp]
theorem hasWidth_int_iff {bits width : Int} {signed : Bool} :
    types.HasWidth (.int bits signed) width ↔ signed = false ∧ width = bits := by
  cases signed <;> simp [HasWidth, packedWidth, packedWidthWith, eq_comm]

@[simp]
theorem hasWidth_enum_iff {tagBits width : Int} {variants : List Variant} :
    types.HasWidth (.enum tagBits variants) width ↔ width = tagBits := by
  simp [HasWidth, packedWidth, packedWidthWith, eq_comm]

theorem hasWidth_packed_iff {width : Int} : types.HasWidth (.struct .packed fields) width ↔
    ∃ widths, types.HaveWidths fields widths ∧ width = roundedSum 0 widths := by
  simp only [HasWidth, packedWidth, packedWidthWith, packedFieldsWidthWith_eq_ok_iff, exists_const]

end Registry

/-! ## Representations by width -/

namespace CtypeWidth

theorem bits_le (width : CtypeWidth) : width.bits ≤ 128 := by
  cases width <;> decide

theorem bits_injective {width width' : CtypeWidth} (h : width.bits = width'.bits) :
    width = width' := by
  revert h
  cases width <;> cases width' <;> decide

end CtypeWidth

namespace Names

variable {names : Names} {type : NativeType} {context : String} {width : CtypeWidth}

/-- The representation of an integer is that of one of five widths. -/
theorem ofBits_eq_ok {bits : Int} {context : String} {ctype : Ctype}
    (h : Ctype.ofBits bits context = .ok ctype) :
    ∃ width : CtypeWidth, bits = width.bits ∧ ctype = .unsigned width := by
  unfold Ctype.ofBits at h
  split at h
  · rename_i width found
    have same := List.find?_some found
    exact ⟨width, (eq_of_beq same).symm, (Except.ok.inj h).symm⟩
  · cases h

theorem ofBits_eq_unsigned_iff {bits : Int} :
    Ctype.ofBits bits context = .ok (.unsigned width) ↔ bits = width.bits := by
  constructor
  · intro h
    obtain ⟨width', same, ctype⟩ := ofBits_eq_ok h
    cases ctype
    exact same
  · rintro rfl
    cases width <;> rfl

/-- A pointer is represented by a pointer. -/
theorem pointerCtype_ne_unsigned {pointee : NativeType} :
    names.pointerCtype pointee context ≠ .ok (.unsigned width) := by
  intro h
  unfold pointerCtype at h
  split at h
  · cases h
  · obtain ⟨_, -, other⟩ := map_eq_ok.mp h
    cases other
  · cases h

/-- A type is represented by the unsigned integer of a number of bits exactly if it is that wide in
a packed struct. -/
theorem ctype_eq_unsigned_iff (noRef : ∀ name, type ≠ .ref name) :
    names.ctype type context = .ok (.unsigned width) ↔ names.types.HasWidth type width.bits := by
  cases type with
  | bool =>
    rw [Registry.hasWidth_bool_iff]
    exact ⟨nofun, fun one => by cases width <;> cases one⟩
  | int bits signed =>
    rw [Registry.hasWidth_int_iff]
    cases signed with
    | true => exact ⟨nofun, fun h => nomatch h.1⟩
    | false => exact ofBits_eq_unsigned_iff.trans ⟨fun same => ⟨rfl, same.symm⟩, fun h => h.2.symm⟩
  | enum tagBits variants =>
    rw [Registry.hasWidth_enum_iff, eq_comm (a := width.bits)]
    exact ofBits_eq_unsigned_iff
  | struct layout fields =>
    cases layout with
    | packed =>
      constructor
      · intro h
        obtain ⟨total, measured, lowered⟩ := bind_eq_ok.mp h
        exact ⟨context, ofBits_eq_unsigned_iff.mp lowered ▸ measured⟩
      · intro h
        exact bind_eq_ok.mpr ⟨_, h.packedWidth context, ofBits_eq_unsigned_iff.mpr rfl⟩
    | cAbi | auto => exact ⟨nofun, fun ⟨_, h⟩ => nomatch h⟩
  | array element length =>
    refine ⟨fun h => ?_, fun ⟨_, h⟩ => nomatch h⟩
    obtain ⟨_, -, other⟩ := map_eq_ok.mp h
    cases other
  | pointer pointee nullable =>
    exact ⟨fun h => absurd h pointerCtype_ne_unsigned, fun ⟨_, h⟩ => nomatch h⟩
  | ref name => exact absurd rfl (noRef name)
  | void | untyped | float => exact ⟨nofun, fun ⟨_, h⟩ => nomatch h⟩

end Names

end NativeBindings
