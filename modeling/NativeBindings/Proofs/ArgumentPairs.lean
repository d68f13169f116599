import NativeBindings.Command.Run
import Mathlib.Data.List.Induction
import Mathlib.Data.List.Nodup

/-!
# Pairs of arguments

Which argument vectors can be read, said without the loop that reads them. They are the rows of
pairs (`Arguments.ofPairs`), each of a flag and something that may be its value
(`Arguments.IsValue`). Every other vector begins with such a row, goes on with something that is no
pair, and is refused with a fault about just that (`Arguments.Breaks`).

* `Arguments.readPairs_ofPairs_append`: reading a row of pairs leads to what follows it, with the
  options that the pairs set.
* `Arguments.mem_record_iff`: these options are the last value of each flag.
* `Arguments.exists_split` and `Breaks.longest`: a row of pairs that cannot be continued begins
  every vector, and it is the longest that does.
* `Arguments.parse_pairs`: all of this for the whole vector.
-/
namespace NativeBindings

/-! ## Records -/

namespace Value

variable {entries : List (String × Value)} {key name : String} {value other : Value}

theorem any_key_iff : entries.any (·.1 == key) = true ↔ key ∈ entries.map (·.1) := by
  simp only [List.any_eq_true, beq_iff_eq, List.mem_map]

/-- Setting a key keeps every key where it stands, and puts a new one at the end. -/
theorem keys_insert : (insert entries key value).map (·.1) =
    if key ∈ entries.map (·.1) then entries.map (·.1) else entries.map (·.1) ++ [key] := by
  unfold insert
  simp only [any_key_iff]
  split
  · rw [List.map_map]
    refine List.map_congr_left fun entry _ => ?_
    by_cases same : entry.1 = key
    · simp [same]
    · simp [same]
  · simp

theorem nodup_keys_insert (distinct : (entries.map (·.1)).Nodup) :
    ((insert entries key value).map (·.1)).Nodup := by
  rw [keys_insert]
  split
  · exact distinct
  · rename_i new
    exact List.nodup_append.mpr
      ⟨distinct, List.nodup_singleton key, fun a ha b hb => by
        rw [List.mem_singleton.mp hb]
        exact fun same => new (same ▸ ha)⟩

/-- After setting a key it has the new value, and all others have theirs. -/
theorem mem_insert_iff : (name, other) ∈ insert entries key value ↔
    (name = key ∧ other = value) ∨ (name ≠ key ∧ (name, other) ∈ entries) := by
  unfold insert
  split
  · rename_i listed
    obtain ⟨old, hold, same⟩ := List.mem_map.mp (any_key_iff.mp listed)
    rw [List.mem_map]
    constructor
    · rintro ⟨entry, mem, made⟩
      split at made
      · cases made
        exact .inl ⟨rfl, rfl⟩
      · rename_i ne
        subst made
        exact .inr ⟨by simpa using ne, mem⟩
    · rintro (⟨rfl, rfl⟩ | ⟨ne, mem⟩)
      · exact ⟨old, hold, by simp [same]⟩
      · exact ⟨(name, other), mem, by simp [ne]⟩
  · rename_i new
    have absent : ∀ kept, (key, kept) ∉ entries := fun kept mem =>
      new (any_key_iff.mpr (List.mem_map_of_mem mem))
    rw [List.mem_append, List.mem_singleton, Prod.mk.injEq, or_comm]
    refine or_congr_right ⟨fun mem => ⟨?_, mem⟩, And.right⟩
    rintro rfl
    exact absent other mem

end Value

/-! ## Flags -/

namespace Flag

theorem ofText?_eq_some_iff {flag : Flag} {argument : String} :
    ofText? argument = some flag ↔ argument = flag.text := by
  constructor
  · intro found
    have same := List.find?_some found
    exact (beq_iff_eq.mp same).symm
  · rintro rfl
    cases flag <;> rfl

theorem option_injective : Function.Injective option := by
  intro flag flag' same
  cases flag <;> cases flag' <;> first | rfl | exact absurd same (by decide)

end Flag

namespace Arguments

/-! ## Pairs -/

/-- What may be the value of a flag: a text that is not empty and does not begin like a flag. -/
def IsValue (argument : String) : Prop := argument ≠ "" ∧ ¬ ['-', '-'] <+: argument.toList

theorem isValue_iff {argument : String} : isValue argument = true ↔ IsValue argument := by
  simp only [isValue, IsValue, List.prefix_iff_eq_take, Bool.and_eq_true, Bool.not_eq_true',
    String.isEmpty_eq_false_iff, bne_iff_ne]
  exact and_congr_right fun _ => not_congr eq_comm

/-- Flags with values. -/
abbrev Pairs := List (Flag × String)

/-- All values may be the values of flags. -/
def Pairs.Valued (pairs : Pairs) : Prop := ∀ pair ∈ pairs, IsValue pair.2

def ofPairs (pairs : Pairs) : List String := pairs.flatMap fun pair => [pair.1.text, pair.2]

def record (options : List (String × Value)) (pairs : Pairs) : List (String × Value) :=
  pairs.foldl (fun options pair => Value.insert options pair.1.option (.text pair.2)) options

/-- A row of arguments does not begin with a pair, and the fault is about what it begins with: an
argument that is no flag, or a flag without a value. -/
inductive Breaks : List String → Fault → Prop
  | unknown {argument : String} (rest : List String)
      (noFlag : ∀ flag : Flag, argument ≠ flag.text) :
      Breaks (argument :: rest) (.unknownArgument argument)
  | missing (flag : Flag) : Breaks [flag.text] (.missingArgumentValue flag.text)
  | invalid (flag : Flag) {value : String} (rest : List String) (noValue : ¬ IsValue value) :
      Breaks (flag.text :: value :: rest) (.missingArgumentValue flag.text)

/-- The value that a flag has last. -/
def LastValue (pairs : Pairs) (flag : Flag) (value : String) : Prop :=
  ∃ before after, pairs = before ++ (flag, value) :: after ∧ ∀ pair ∈ after, pair.1 ≠ flag

/-- A record has one entry for each flag among the arguments, the last value of the flag. -/
structure HoldsLastValues (entries : List (String × Value)) (pairs : Pairs) : Prop where
  distinct : (entries.map (·.1)).Nodup
  values : ∀ key value, (key, value) ∈ entries ↔
    ∃ flag text, key = flag.option ∧ value = .text text ∧ LastValue pairs flag text
  flags : ∀ flag : Flag, flag.option ∈ entries.map (·.1) ↔ flag.text ∈ ofPairs pairs

variable {pairs : Pairs} {options : List (String × Value)} {rest : List String} {fault : Fault}

/-! ### What pairs set -/

theorem lastValue_concat {pair : Flag × String} {flag : Flag} {value : String} :
    LastValue (pairs ++ [pair]) flag value ↔
      pair = (flag, value) ∨ (pair.1 ≠ flag ∧ LastValue pairs flag value) := by
  constructor
  · rintro ⟨before, after, same, last⟩
    rcases List.eq_nil_or_concat after with rfl | ⟨after, other, rfl⟩
    · exact .inl (List.concat_inj.mp (by simpa using same)).2
    · rw [List.concat_eq_append] at same last
      rw [← List.cons_append, ← List.append_assoc] at same
      obtain ⟨rfl, same⟩ := List.append_inj' same rfl
      obtain rfl : pair = other := by simpa using same
      exact .inr ⟨last pair (by simp), before, after, rfl, fun p hp => last p (by simp [hp])⟩
  · rintro (rfl | ⟨ne, before, after, rfl, last⟩)
    · exact ⟨pairs, [], rfl, by simp⟩
    · refine ⟨before, after ++ [pair], by simp, fun p hp => ?_⟩
      rcases List.mem_append.mp hp with old | new
      · exact last p old
      · rwa [List.mem_singleton.mp new]

/-- Pairs set each of their flags to its last value, and nothing else. -/
theorem mem_record_iff (pairs : Pairs) {key : String} {value : Value} :
    (key, value) ∈ record [] pairs ↔
      ∃ flag text, key = flag.option ∧ value = .text text ∧ LastValue pairs flag text := by
  induction pairs using List.reverseRecOn generalizing key value with
  | nil => simp [record, LastValue]
  | append_singleton pairs pair ih =>
    rw [record, List.foldl_append, List.foldl_cons, List.foldl_nil, ← record, Value.mem_insert_iff,
      ih]
    simp only [lastValue_concat]
    constructor
    · rintro (⟨rfl, rfl⟩ | ⟨ne, flag, text, rfl, rfl, last⟩)
      · exact ⟨pair.1, pair.2, rfl, rfl, .inl rfl⟩
      · exact ⟨flag, text, rfl, rfl, .inr ⟨fun same => ne (congrArg _ same.symm), last⟩⟩
    · rintro ⟨flag, text, rfl, rfl, rfl | ⟨ne, last⟩⟩
      · exact .inl ⟨rfl, rfl⟩
      · exact .inr ⟨fun same => ne (Flag.option_injective same).symm, flag, text, rfl, rfl, last⟩

theorem nodup_keys_record (pairs : Pairs) : ((record [] pairs).map (·.1)).Nodup := by
  induction pairs using List.reverseRecOn with
  | nil => exact List.nodup_nil
  | append_singleton pairs pair ih =>
    rw [record, List.foldl_append]
    exact Value.nodup_keys_insert ih

theorem exists_lastValue_iff {flag : Flag} :
    (∃ text, LastValue pairs flag text) ↔ ∃ text, (flag, text) ∈ pairs := by
  induction pairs using List.reverseRecOn with
  | nil => simp [LastValue]
  | append_singleton pairs pair ih =>
    simp only [lastValue_concat, List.mem_append, List.mem_singleton, exists_or, exists_and_left,
      ih]
    constructor
    · rintro (⟨text, rfl⟩ | ⟨-, listed⟩)
      · exact .inr ⟨text, rfl⟩
      · exact .inl listed
    · rintro (listed | ⟨text, rfl⟩)
      · by_cases same : pair.1 = flag
        · exact .inl ⟨pair.2, same ▸ rfl⟩
        · exact .inr ⟨same, listed⟩
      · exact .inl ⟨text, rfl⟩

/-- No value is taken for a flag. -/
theorem text_mem_ofPairs_iff (valued : pairs.Valued) {flag : Flag} :
    flag.text ∈ ofPairs pairs ↔ ∃ text, (flag, text) ∈ pairs := by
  have dashes : ['-', '-'] <+: flag.text.toList := by cases flag <;> decide
  simp only [ofPairs, List.mem_flatMap, List.mem_cons, List.not_mem_nil, or_false]
  constructor
  · rintro ⟨pair, listed, flags | value⟩
    · have same : flag = pair.1 := Option.some.inj
        ((Flag.ofText?_eq_some_iff.mpr rfl).symm.trans (Flag.ofText?_eq_some_iff.mpr flags))
      exact ⟨pair.2, same ▸ listed⟩
    · exact absurd (value ▸ dashes) (valued pair listed).2
  · rintro ⟨text, listed⟩
    exact ⟨(flag, text), listed, .inl rfl⟩

/-- What pairs set is the last value of each flag. -/
theorem holdsLastValues_record (valued : pairs.Valued) :
    HoldsLastValues (record [] pairs) pairs where
  distinct := nodup_keys_record pairs
  values _ _ := mem_record_iff pairs
  flags flag := by
    rw [text_mem_ofPairs_iff valued, ← exists_lastValue_iff]
    simp only [List.mem_map, Prod.exists, exists_and_right, exists_eq_right, mem_record_iff]
    constructor
    · rintro ⟨value, flag', text, same, rfl, last⟩
      exact ⟨text, Flag.option_injective same ▸ last⟩
    · rintro ⟨text, last⟩
      exact ⟨.text text, flag, text, rfl, rfl, last⟩

/-! ### Reading pairs -/

/-- Reading a pair leads to what follows it, with the option that the pair sets. -/
theorem readPairs_pair (options : List (String × Value)) (flag : Flag) {value : String}
    (valued : IsValue value) (rest : List String) : readPairs options (flag.text :: value :: rest) =
      readPairs (Value.insert options flag.option (.text value)) rest := by
  rw [readPairs, Flag.ofText?_eq_some_iff.mpr rfl]
  exact if_pos (isValue_iff.mpr valued)

theorem readPairs_ofPairs_append (valued : pairs.Valued) (options : List (String × Value))
    (rest : List String) :
    readPairs options (ofPairs pairs ++ rest) = readPairs (record options pairs) rest := by
  induction pairs generalizing options with
  | nil => rfl
  | cons pair pairs ih =>
    obtain ⟨first, others⟩ := List.forall_mem_cons.mp valued
    exact (readPairs_pair options pair.1 first _).trans (ih others _)

/-- Where no pair begins, reading ends with the fault about that place. -/
theorem readPairs_of_breaks (h : Breaks rest fault) (options : List (String × Value)) :
    readPairs options rest = .error fault := by
  cases h with
  | @unknown argument rest noFlag =>
    have none : Flag.ofText? argument = none :=
      Option.eq_none_iff_forall_ne_some.mpr fun flag found =>
        noFlag flag (Flag.ofText?_eq_some_iff.mp found)
    cases rest <;> rw [readPairs, none]
  | missing flag => rw [readPairs, Flag.ofText?_eq_some_iff.mpr rfl]
  | invalid flag rest noValue =>
    rw [readPairs, Flag.ofText?_eq_some_iff.mpr rfl]
    exact if_neg (mt isValue_iff.mp noValue)

/-! ### Where a vector breaks off -/

/-- Arguments begin with a pair, or they break off at once, or there are none. -/
theorem breaks_or_pair (arguments : List String) : arguments = [] ∨
    (∃ fault, Breaks arguments fault) ∨
    ∃ (flag : Flag) (value : String) (rest : List String),
      IsValue value ∧ arguments = flag.text :: value :: rest := by
  cases arguments with
  | nil => exact .inl rfl
  | cons argument rest =>
    right
    cases found : Flag.ofText? argument with
    | none =>
      refine .inl ⟨_, .unknown rest fun flag same => ?_⟩
      rw [Flag.ofText?_eq_some_iff.mpr same] at found
      cases found
    | some flag =>
      obtain rfl := Flag.ofText?_eq_some_iff.mp found
      cases rest with
      | nil => exact .inl ⟨_, .missing flag⟩
      | cons value rest =>
        by_cases valued : IsValue value
        · exact .inr ⟨flag, value, rest, valued, rfl⟩
        · exact .inl ⟨_, .invalid flag rest valued⟩

/-- Every vector is a row of pairs, or breaks off behind one. -/
theorem exists_split (arguments : List String) : ∃ (pairs : Pairs) (rest : List String),
    pairs.Valued ∧ arguments = ofPairs pairs ++ rest ∧
      (rest = [] ∨ ∃ fault, Breaks rest fault) := by
  rcases breaks_or_pair arguments with rfl | breaks | ⟨flag, value, behind, valued, rfl⟩
  · exact ⟨[], [], nofun, rfl, .inl rfl⟩
  · exact ⟨[], arguments, nofun, rfl, .inr breaks⟩
  · obtain ⟨pairs, rest, others, split, ends⟩ := exists_split behind
    refine ⟨(flag, value) :: pairs, rest, List.forall_mem_cons.mpr ⟨valued, others⟩, ?_, ends⟩
    rw [split]
    rfl
termination_by arguments.length

/-- Where a vector breaks off, no pair begins. -/
theorem Breaks.not_pair {argument value : String} (h : Breaks (argument :: value :: rest) fault)
    {flag : Flag} (isFlag : argument = flag.text) : ¬ IsValue value := by
  cases h with
  | unknown _ noFlag => exact absurd isFlag (noFlag flag)
  | invalid _ _ noValue => exact noValue

/-- The pairs before the place where a vector breaks off are the longest row of pairs that it begins
with. -/
theorem Breaks.longest (h : Breaks rest fault) {pairs' : Pairs} {rest' : List String}
    (valued : pairs'.Valued) (same : ofPairs pairs ++ rest = ofPairs pairs' ++ rest') :
    pairs' <+: pairs := by
  induction pairs' generalizing pairs with
  | nil => exact List.nil_prefix
  | cons pair' pairs' ih =>
    obtain ⟨first, others⟩ := List.forall_mem_cons.mp valued
    cases pairs with
    | nil =>
      rw [show rest = pair'.1.text :: pair'.2 :: (ofPairs pairs' ++ rest') from same] at h
      exact absurd first (h.not_pair rfl)
    | cons pair pairs =>
      simp only [ofPairs, List.flatMap_cons, List.cons_append, List.nil_append, List.cons.injEq]
        at same
      obtain ⟨flags, values, same⟩ := same
      have flag : pair.1 = pair'.1 :=
        Option.some.inj ((Flag.ofText?_eq_some_iff.mpr rfl).symm.trans
          (Flag.ofText?_eq_some_iff.mpr flags))
      rw [show pair' = pair from Prod.ext flag.symm values.symm, List.prefix_cons_inj]
      exact ih others same

/-! ## Whole vectors -/

theorem parse_ofPairs (valued : pairs.Valued) :
    parse (ofPairs pairs) = .ok (.map (record [] pairs)) := by
  have read := readPairs_ofPairs_append valued [] []
  rw [List.append_nil] at read
  rw [parse, read, readPairs]
  rfl

theorem parse_of_breaks (valued : pairs.Valued) (h : Breaks rest fault) :
    parse (ofPairs pairs ++ rest) = .error fault := by
  rw [parse, readPairs_ofPairs_append valued, readPairs_of_breaks h]
  rfl

/-- The vectors that can be read are the rows of pairs of a flag and a value, and what is read is
the last value of each flag. Any other vector is refused for the place at which it stops being one:
an argument there that is no flag, or a flag there without a value, whatever follows. -/
theorem parse_pairs (arguments : List String) :
    ((∃ options, parse arguments = .ok options) ↔
      ∃ pairs : Pairs, pairs.Valued ∧ arguments = ofPairs pairs) ∧
    (∀ pairs : Pairs, pairs.Valued → arguments = ofPairs pairs →
      ∃ entries, parse arguments = .ok (.map entries) ∧ HoldsLastValues entries pairs) ∧
    ∀ fault, parse arguments = .error fault ↔
      ∃ (pairs : Pairs) (rest : List String), pairs.Valued ∧ arguments = ofPairs pairs ++ rest ∧
        Breaks rest fault ∧ ∀ (pairs' : Pairs) (rest' : List String), pairs'.Valued →
          arguments = ofPairs pairs' ++ rest' → pairs' <+: pairs := by
  obtain ⟨pairs, rest, valued, rfl, ends⟩ := exists_split arguments
  refine ⟨⟨?_, ?_⟩, ?_, fun fault => ⟨?_, ?_⟩⟩
  · rintro ⟨options, read⟩
    rcases ends with rfl | ⟨fault, breaks⟩
    · exact ⟨pairs, valued, List.append_nil _⟩
    · rw [parse_of_breaks valued breaks] at read
      cases read
  · rintro ⟨pairs', valued', same⟩
    exact ⟨_, same ▸ parse_ofPairs valued'⟩
  · intro pairs' valued' same
    exact ⟨record [] pairs', same ▸ parse_ofPairs valued', holdsLastValues_record valued'⟩
  · intro refused
    rcases ends with rfl | ⟨fault', breaks⟩
    · rw [List.append_nil, parse_ofPairs valued] at refused
      cases refused
    · rw [parse_of_breaks valued breaks] at refused
      cases refused
      exact ⟨pairs, rest, valued, rfl, breaks, fun _ _ valued' => breaks.longest valued'⟩
  · rintro ⟨pairs', rest', valued', same, breaks, -⟩
    rw [same]
    exact parse_of_breaks valued' breaks

theorem parse_pairs_repeated :
    (∃ entries,
      parse ["--out", "a.py", "--log-level", "debug", "--out", "-b"] = .ok (.map entries) ∧
        ("outPath", .text "-b") ∈ entries) ∧
    parse ["--out", "a.py", "--domain", "--out", "b.py"] =
      .error (.missingArgumentValue "--domain") := by
  constructor
  · have valued : Pairs.Valued [(.out, "a.py"), (.logLevel, "debug"), (.out, "-b")] := by
      simp only [Pairs.Valued, ← isValue_iff]
      decide
    obtain ⟨entries, read, holds⟩ := (parse_pairs _).2.1 _ valued rfl
    exact ⟨entries, read, (holds.values _ _).mpr ⟨.out, "-b", rfl, rfl,
      [(.out, "a.py"), (.logLevel, "debug")], [], rfl, nofun⟩⟩
  · have valued : Pairs.Valued [(.out, "a.py")] := by
      simp only [Pairs.Valued, ← isValue_iff]
      decide
    have breaks : Breaks ["--domain", "--out", "b.py"] (.missingArgumentValue "--domain") :=
      .invalid .domain ["b.py"] (mt isValue_iff.mpr (by decide))
    exact ((parse_pairs _).2.2 _).mpr ⟨[(.out, "a.py")], _, valued, rfl, breaks,
      fun pairs' rest' valued' same => breaks.longest valued' same⟩

end Arguments
end NativeBindings
