import NativeBindings.Document.Composition
import NativeBindings.Document.Decode
import NativeBindings.Proofs.Notation
import NativeBindings.Proofs.SoundRegistry

/-!
# What decoded documents promise

A document that is decoded from a data value is well formed (`Document.WellFormed`), whatever the
value: its names are identifiers, its version is an integer that a double tells apart from its
neighbours, and its types have a notation, apart from the enums and structs that declarations are
of. Which fields are reserved is what the nodes they are decoded from say (`Field.Of`).

* There is one lemma for each decoder; `Decode.document_eq_ok` puts them together.
* What a document promises is what the rules for declarations ask of widths, lengths, variants and
  nesting, so composing decoded documents never ends in a fault about these (`compose_remaining`).
-/
namespace NativeBindings

open Text

/-! ## Well-formed documents -/

/-- A type that a declaration may be of: an enum with variants and a tag of 1 to 128 bits, a struct
whose fields have a notation, or an alias of a type that has one. -/
def NativeType.Declarable : NativeType → Prop
  | .enum tagBits variants => (1 ≤ tagBits ∧ tagBits ≤ 128) ∧ variants ≠ [] ∧
      ∀ v ∈ variants, isIdentifier v.name = true
  | .struct _ fields => ∀ f ∈ fields, isIdentifier f.name = true ∧ f.type.HasNotation
  | type => type.HasNotation

/-- A declaration with an identifier for its name. -/
structure Declaration.WellFormed (d : Declaration) : Prop where
  name : isIdentifier d.name = true
  type : d.type.Declarable

/-- A mapping of identifiers to identifiers. -/
structure Mapping.WellFormed (m : Mapping) : Prop where
  type : isIdentifier m.type = true
  name : isIdentifier m.name = true
  skip : ∀ members ∈ m.skip, ∀ member ∈ members, isIdentifier member = true

/-- An operation on types that have a notation. -/
structure Operation.WellFormed (o : Operation) : Prop where
  name : isIdentifier o.name = true
  parameter : isIdentifier o.parameter = true
  event : o.event.HasNotation
  result : o.result.HasNotation

/-- A client library with identifiers for its handle and its symbols. -/
structure Client.WellFormed (c : Client) : Prop where
  library : isIdentifier c.library = true
  symbolPrefix : isIdentifier c.symbolPrefix = true

/-- A document of well-formed parts. -/
structure Document.WellFormed (doc : Document) : Prop where
  version : doc.metadata.version.natAbs ≤ 2 ^ 53 - 1
  types : ∀ d ∈ doc.types, d.WellFormed
  mappings : ∀ m ∈ doc.mappings, m.WellFormed
  operations : ∀ o ∈ doc.operations, o.WellFormed
  client : ∀ c ∈ doc.client, c.WellFormed

/-- The fields of a struct; other types have none. -/
def NativeType.fields : NativeType → Fields
  | .struct _ fields => fields
  | _ => []

/-- A type that has a notation is that of an alias, which has no fields. -/
theorem NativeType.HasNotation.declarable {type : NativeType} (h : type.HasNotation) :
    type.Declarable ∧ type.fields = [] := by
  cases type <;> first | exact ⟨h, rfl⟩ | cases h

/-- The type of an alias has a notation. -/
theorem NativeType.Declarable.hasNotation {type : NativeType} (h : type.Declarable)
    (notStruct : ∀ layout fields, type = .struct layout fields → False)
    (notEnum : ∀ tagBits variants, type = .enum tagBits variants → False) : type.HasNotation := by
  cases type with
  | struct layout fields => exact (notStruct layout fields rfl).elim
  | enum tagBits variants => exact (notEnum tagBits variants rfl).elim
  | _ => exact h

/-- A field says what its node says: its name, and that it is reserved if a flag says so or if,
without a flag, the name does. -/
def Field.Of (node : Value) (field : Field NativeType) : Prop :=
  node.get? "name" = some (.text field.name) ∧
  (field.reserved = true ↔ node.get? "reserved" = some (.bool true) ∨
    (node.get? "reserved" = none ∧ field.name = "reserved"))

namespace Decode

/-- The items of the list under a key, none if there is no list. -/
def items (node : Value) (key : String) : List Value :=
  match node.get? key with
  | some (.list items) => items
  | _ => []

/-- The nodes of the fields of a declaration. -/
def fieldNodes (node : Value) : List Value :=
  match (node.get? "kind").bind (·.get? "struct") with
  | some struct => items struct "fields"
  | none => []

/-! ## Parts of a document -/

variable {context : String}

theorem record_eq_ok {value : Option Value} {node : Value} (h : record value context = .ok node) :
    value = some node := by
  unfold record at h
  split at h
  · cases h
    rfl
  · cases h

theorem text_eq_ok {value : Option Value} {s : String} (h : text value context = .ok s) :
    value = some (.text s) := by
  unfold text at h
  split at h
  · split_ifs at h
    cases h
    rfl
  · cases h

theorem identifier_eq_ok {value : Option Value} {name : String}
    (h : identifier value context = .ok name) :
    value = some (.text name) ∧ isIdentifier name = true := by
  obtain ⟨s, read, h⟩ := bind_eq_ok.mp h
  split_ifs at h with ident
  cases h
  exact ⟨text_eq_ok read, ident⟩

theorem expression_hasNotation {value : Option Value} {place : String} {type : NativeType}
    (h : expression value context place = .ok type) : type.HasNotation := by
  obtain ⟨source, -, h⟩ := bind_eq_ok.mp h
  exact Expression.hasNotation_of_parse h

/-- What the decoder of an item promises holds item by item. -/
theorem forall₂_of_each {α : Type} {nodes : List Value} {decode : Value → Nat → Except Fault α}
    {results : List α} {P : Value → α → Prop} (h : each nodes decode = .ok results)
    (spec : ∀ node index result, decode node index = .ok result → P node result) :
    List.Forall₂ P nodes results := by
  have positioned : List.Forall₂ (fun item result => P item.1 result) nodes.zipIdx results :=
    (mapM_eq_ok.mp h).imp fun item result read => spec item.1 item.2 result read
  rw [← List.zipIdx_map_fst 0 nodes, List.forall₂_map_left_iff]
  exact positioned

/-- What the decoder of an item promises about its result holds of every result. -/
theorem forall_of_each {α : Type} {nodes : List Value} {decode : Value → Nat → Except Fault α}
    {results : List α} {P : α → Prop} (h : each nodes decode = .ok results)
    (spec : ∀ node index result, decode node index = .ok result → P result) :
    ∀ result ∈ results, P result := by
  intro result mem
  obtain ⟨item, -, read⟩ := (mem_iff_of_mapM h).mp mem
  exact spec item.1 item.2 result read

theorem section?_eq_ok {root : Value} {key : String} {nodes : List Value}
    (h : section? root key = .ok nodes) : nodes = items root key := by
  unfold section? at h
  unfold items
  split at h
  all_goals simp_all

theorem metadata_version {node : Value} {found : Metadata} (h : metadata node = .ok found) :
    found.version.natAbs ≤ 2 ^ 53 - 1 := by
  obtain ⟨name, -, h⟩ := bind_eq_ok.mp h
  dsimp only at h
  split at h
  · cases h
  · cases h
  · split_ifs at h
    · cases h
    · split at h
      · rename_i safe
        cases h
        exact of_decide_eq_true (Binary64.isSafe_of_toSafeInt? safe)
      · cases h

theorem client_wellFormed {node : Value} {found : Client} (h : client node = .ok found) :
    found.WellFormed := by
  obtain ⟨roles, -, h⟩ := bind_eq_ok.mp h
  obtain ⟨library, libraryRead, h⟩ := bind_eq_ok.mp h
  obtain ⟨symbolPrefix, prefixRead, h⟩ := bind_eq_ok.mp h
  simp only [bind_eq_ok, pure_eq_ok] at h
  obtain ⟨operation, -, status, -, packet, -, handle, -, rfl⟩ := h
  exact ⟨(identifier_eq_ok libraryRead).2, (identifier_eq_ok prefixRead).2⟩

/-! ## Declarations -/

theorem variant_named {owner : String} {node : Value} {index : Nat} {v : Variant}
    (h : variant owner node index = .ok v) : isIdentifier v.name = true := by
  obtain ⟨node, -, h⟩ := bind_eq_ok.mp h
  obtain ⟨name, read, h⟩ := bind_eq_ok.mp h
  have ident := (identifier_eq_ok read).2
  split at h
  · cases h
    exact ident
  · split at h
    · cases h
      exact ident
    · cases h
  · cases h

/-- The tag of an enum is an integer that has a notation, so its width is from 1 to 128. -/
theorem enum_eq_ok {owner : String} {node : Value} {type : NativeType}
    (h : enum owner node = .ok type) : type.Declarable ∧ type.fields = [] := by
  obtain ⟨tag, tagRead, h⟩ := bind_eq_ok.mp h
  have tagWidth := expression_hasNotation tagRead
  split at h
  · split at h
    · obtain ⟨variants, read, h⟩ := bind_eq_ok.mp h
      cases h
      refine ⟨⟨tagWidth, ?_, forall_of_each read fun _ _ _ => variant_named⟩, rfl⟩
      rintro rfl
      cases forall₂_of_each (P := fun _ _ => True) read fun _ _ _ _ => trivial
    · cases h
  · cases h

theorem field_eq_ok {owner : String} {node : Value} {index : Nat} {f : Field NativeType}
    (h : field owner node index = .ok f) :
    f.Of node ∧ isIdentifier f.name = true ∧ f.type.HasNotation := by
  obtain ⟨node, same, h⟩ := bind_eq_ok.mp h
  obtain rfl := Option.some.inj (record_eq_ok same)
  obtain ⟨name, nameRead, h⟩ := bind_eq_ok.mp h
  obtain ⟨type, typeRead, h⟩ := bind_eq_ok.mp h
  obtain ⟨named, ident⟩ := identifier_eq_ok nameRead
  have written := expression_hasNotation typeRead
  split at h
  · rename_i unflagged
    cases h
    exact ⟨⟨named, by simp [Field.unflagged, unflagged]⟩, ident, written⟩
  · rename_i flagged
    cases h
    exact ⟨⟨named, by simp [flagged]⟩, ident, written⟩
  · cases h

theorem struct_eq_ok {owner : String} {node : Value} {type : NativeType}
    (h : struct owner node = .ok type) :
    type.Declarable ∧ List.Forall₂ Field.Of (items node "fields") type.fields := by
  obtain ⟨layout, -, h⟩ := bind_eq_ok.mp h
  split at h
  · rename_i nodes listed
    obtain ⟨fields, read, h⟩ := bind_eq_ok.mp h
    cases h
    refine ⟨forall_of_each read fun _ _ _ decoded => (field_eq_ok decoded).2, ?_⟩
    rw [show items node "fields" = nodes by simp [items, listed]]
    exact forall₂_of_each read fun _ _ _ decoded => (field_eq_ok decoded).1
  · cases h

/-- The one entry of a kind says whether there are nodes of fields. -/
theorem fieldNodes_eq {node value : Value} {key : String}
    (kind : node.get? "kind" = some (.map [(key, value)])) :
    fieldNodes node = if key = "struct" then items value "fields" else [] := by
  rw [fieldNodes, kind, Option.bind_some]
  by_cases struct : key = "struct"
  · subst struct
    rfl
  · have none : (Value.map [(key, value)]).get? "struct" = none := by
      simp [Value.get?, Ne.symm struct]
    rw [none, if_neg struct]

theorem declaration_eq_ok {node : Value} {index : Nat} {d : Declaration}
    (h : declaration node index = .ok d) :
    d.WellFormed ∧ List.Forall₂ Field.Of (fieldNodes node) d.type.fields := by
  obtain ⟨node, same, h⟩ := bind_eq_ok.mp h
  obtain rfl := Option.some.inj (record_eq_ok same)
  obtain ⟨name, nameRead, h⟩ := bind_eq_ok.mp h
  obtain ⟨kind, kindRead, h⟩ := bind_eq_ok.mp h
  have ident := (identifier_eq_ok nameRead).2
  have kindNode := record_eq_ok kindRead
  split at h
  · obtain ⟨value, -, h⟩ := bind_eq_ok.mp h
    obtain ⟨type, read, h⟩ := bind_eq_ok.mp h
    cases h
    obtain ⟨declarable, fieldless⟩ := enum_eq_ok read
    refine ⟨⟨ident, declarable⟩, ?_⟩
    rw [fieldNodes_eq kindNode, if_neg (by decide), fieldless]
    exact .nil
  · obtain ⟨value, valueRead, h⟩ := bind_eq_ok.mp h
    obtain ⟨type, read, h⟩ := bind_eq_ok.mp h
    cases h
    obtain rfl := Option.some.inj (record_eq_ok valueRead)
    obtain ⟨declarable, fields⟩ := struct_eq_ok read
    refine ⟨⟨ident, declarable⟩, ?_⟩
    rw [fieldNodes_eq kindNode, if_pos rfl]
    exact fields
  · obtain ⟨type, read, h⟩ := bind_eq_ok.mp h
    cases h
    obtain ⟨declarable, fieldless⟩ := (expression_hasNotation read).declarable
    refine ⟨⟨ident, declarable⟩, ?_⟩
    rw [fieldNodes_eq kindNode, if_neg (by decide), fieldless]
    exact .nil
  · cases h
  · cases h

/-! ## Documents -/

theorem mapping_wellFormed {node : Value} {index : Nat} {m : Mapping}
    (h : mapping node index = .ok m) : m.WellFormed := by
  obtain ⟨node, -, h⟩ := bind_eq_ok.mp h
  obtain ⟨type, typeRead, h⟩ := bind_eq_ok.mp h
  obtain ⟨name, nameRead, h⟩ := bind_eq_ok.mp h
  have typeIdent := (identifier_eq_ok typeRead).2
  have nameIdent := (identifier_eq_ok nameRead).2
  split at h
  · cases h
    exact ⟨typeIdent, nameIdent, by simp⟩
  · obtain ⟨skip, read, h⟩ := bind_eq_ok.mp h
    cases h
    have skipIdent : ∀ member ∈ skip, isIdentifier member = true :=
      forall_of_each read fun _ _ _ decoded => (identifier_eq_ok decoded).2
    exact ⟨typeIdent, nameIdent, by simpa using skipIdent⟩
  · cases h

theorem operation_wellFormed {node : Value} {index : Nat} {o : Operation}
    (h : operation node index = .ok o) : o.WellFormed := by
  obtain ⟨node, -, h⟩ := bind_eq_ok.mp h
  obtain ⟨name, nameRead, h⟩ := bind_eq_ok.mp h
  dsimp only at h
  split at h
  case h_1 | h_2 =>
    obtain ⟨arity, -, h⟩ := bind_eq_ok.mp h
    obtain ⟨event, eventRead, h⟩ := bind_eq_ok.mp h
    obtain ⟨result, resultRead, h⟩ := bind_eq_ok.mp h
    obtain ⟨parameter, parameterRead, h⟩ := bind_eq_ok.mp h
    cases h
    exact {
      name := (identifier_eq_ok nameRead).2
      parameter := (identifier_eq_ok parameterRead).2
      event := expression_hasNotation eventRead
      result := expression_hasNotation resultRead }
  · cases h

theorem document_eq_ok {root : Value} {doc : Document} (h : document root = .ok doc) :
    doc.WellFormed ∧
      List.Forall₂ (fun node d => List.Forall₂ Field.Of (fieldNodes node) d.type.fields)
        (items root "types") doc.types := by
  obtain ⟨root, same, h⟩ := bind_eq_ok.mp h
  obtain rfl := Option.some.inj (record_eq_ok same)
  obtain ⟨_, -, h⟩ := bind_eq_ok.mp h
  obtain ⟨about, aboutRead, h⟩ := bind_eq_ok.mp h
  obtain ⟨typeNodes, typeSection, h⟩ := bind_eq_ok.mp h
  obtain ⟨mappingNodes, -, h⟩ := bind_eq_ok.mp h
  obtain ⟨operationNodes, -, h⟩ := bind_eq_ok.mp h
  obtain ⟨types, typesRead, h⟩ := bind_eq_ok.mp h
  obtain ⟨mappings, mappingsRead, h⟩ := bind_eq_ok.mp h
  obtain ⟨operations, operationsRead, h⟩ := bind_eq_ok.mp h
  have version := metadata_version aboutRead
  have declared : ∀ d ∈ types, d.WellFormed :=
    forall_of_each typesRead fun _ _ _ read => (declaration_eq_ok read).1
  have fields : List.Forall₂ (fun node d => List.Forall₂ Field.Of (fieldNodes node) d.type.fields)
      (items root "types") types := by
    rw [← section?_eq_ok typeSection]
    exact forall₂_of_each typesRead fun _ _ _ read => (declaration_eq_ok read).2
  have mapped : ∀ m ∈ mappings, m.WellFormed :=
    forall_of_each mappingsRead fun _ _ _ => mapping_wellFormed
  have offered : ∀ o ∈ operations, o.WellFormed :=
    forall_of_each operationsRead fun _ _ _ => operation_wellFormed
  dsimp only at h
  split at h
  · cases h
    exact ⟨⟨version, declared, mapped, offered, by simp⟩, fields⟩
  · obtain ⟨found, foundRead, h⟩ := bind_eq_ok.mp h
    obtain ⟨library, libraryRead, rfl⟩ := map_eq_ok.mp foundRead
    obtain ⟨node, -, decoded⟩ := bind_eq_ok.mp libraryRead
    cases h
    exact ⟨⟨version, declared, mapped, offered, by simpa using client_wellFormed decoded⟩, fields⟩

end Decode

/-! ## What composing cannot find -/

/-- A fault of a registry about the width of a tag, an enum without variants, the length of an
array, or an enum or struct that no declaration is of. -/
def Fault.IsRuledOut : Fault → Prop
  | .tagWidthNotPositive _ | .tagWidthUnmanageable | .noVariants _ => True
  | .arrayLengthNotPositive _ | .anonymous _ _ => True
  | _ => False

/-- A step that none of those faults ends. -/
abbrev Remaining {α : Type} (x : Except Fault α) : Prop := OnlyFaults (¬ Fault.IsRuledOut ·) x

namespace Check

variable {types : Registry}

theorem type_remaining {type : NativeType} (h : type.HasNotation) (context : String) :
    Remaining (Check.type types type context) := by
  fun_induction Check.type types type context with
  | case1 => exact .ok ()
  | case2 => exact .error id
  | case3 _ _ _ _ ih => exact ih h.2
  | case4 _ _ _ uncounted => exact absurd (isPositiveCount_iff.mpr h.1) uncounted
  | case5 _ _ _ ih => exact ih h
  | case6 => exact h.elim
  | case7 => exact h.elim
  | case8 => exact .ok ()

theorem fields_remaining {owner : String} {members : Fields}
    (h : ∀ f ∈ members, f.type.HasNotation) (seen : List String) :
    Remaining (Check.fields types owner seen members) := by
  induction members generalizing seen with
  | nil => exact .ok ()
  | cons field rest ih =>
    obtain ⟨first, others⟩ := List.forall_mem_cons.mp h
    rw [Check.fields]
    split
    · exact .error id
    · exact .bind (type_remaining first _) fun _ _ => ih others _

theorem variants_remaining (owner : String) (tagBits : Int) (members seen : List Variant) :
    Remaining (Check.variants owner tagBits seen members) := by
  fun_induction Check.variants owner tagBits seen members with
  | case1 => exact .ok ()
  | case2 => exact .error id
  | case3 => exact .error id
  | case4 => exact .error id
  | case5 _ _ _ _ _ _ ih => exact ih

theorem declaration_remaining {d : Declaration} (h : d.type.Declarable) :
    Remaining (declaration types d) := by
  unfold declaration
  split
  · rename_i struct
    rw [struct] at h
    exact fields_remaining (fun f hf => (h f hf).2) []
  · rename_i tagBits members enum
    rw [enum] at h
    obtain ⟨range, nonempty, -⟩ := h
    have largest : Binary64.maxSafe = 2 ^ 53 - 1 := rfl
    have counted : isPositiveCount tagBits = true := isPositiveCount_iff.mpr (by omega)
    have manageable : ¬ (maxTagBits : Int) < tagBits := by simp only [maxTagBits]; omega
    rw [if_neg (by simp [counted]), if_neg (by simpa using nonempty), if_neg manageable]
    exact variants_remaining d.name tagBits members []
  · rename_i notStruct notEnum
    exact type_remaining (h.hasNotation notStruct notEnum) d.name

end Check

namespace Registry

theorem build_remaining {declarations : List Declaration}
    (h : ∀ d ∈ declarations, d.type.Declarable) : Remaining (build declarations) := by
  have declared : Remaining (ofList declarations) := by
    refine .foldlM (fun types d => ?_) _ _
    unfold declare
    split
    · exact .error id
    · exact .ok _
  refine .bind declared fun types made => ?_
  rw [← declarations_ofList made] at h
  refine .bind (.forM fun d hd => Check.declaration_remaining (h d hd)) fun _ _ => ?_
  refine .bind ?_ fun _ _ => .pure types
  unfold checkCycles
  split
  · exact .error id
  · exact .ok ()

end Registry

namespace Names

theorem checkTable_remaining (types : Registry) (kind : TableKind) (mappedBefore : String → Bool)
    (targets : List (String × String)) (mappings : List Mapping) :
    Remaining (checkTable types kind mappedBefore targets mappings) := by
  fun_induction checkTable types kind mappedBefore targets mappings with
  | case1 => exact .ok _
  | case2 => exact .error id
  | case3 => exact .error id
  | case4 => exact .error id
  | case5 _ _ _ _ _ _ ih => exact ih

theorem build_remaining (types : Registry) (protocol domain : List Mapping) :
    Remaining (build types protocol domain) := by
  have listed (kind : TableKind) (mappings : List Mapping) :
      Remaining (NameTable.ofList kind mappings) := by
    refine .foldlM (fun table mapping => ?_) _ _
    unfold NameTable.insert
    split
    · exact .error id
    · exact .ok _
  refine .bind (listed _ _) fun protocol _ => .bind (listed _ _) fun domain _ => ?_
  refine .bind (checkTable_remaining _ _ _ _ _) fun targets _ => ?_
  exact .bind (checkTable_remaining _ _ _ _ _) fun _ _ => .pure _

end Names

namespace Composition

theorem get_remaining (types : Registry) (name : String) : Remaining (types.get name) := by
  unfold Registry.get
  split
  · exact .ok _
  · exact .error id

theorem checkRole_remaining (names : Names) (client : Client) (role : Role) :
    Remaining (checkRole names client role) := by
  have named (type context : String) : Remaining (names.require type context) := by
    unfold Names.require
    split
    · exact .ok _
    · exact .error id
  unfold checkRole
  dsimp only
  split
  · exact .error id
  · exact .bind (named _ _) fun _ _ => .pure ()

theorem checkRoles_remaining (names : Names) (client : Client) :
    Remaining (checkRoles names client) := by
  refine .bind (.forM fun role _ => checkRole_remaining names client role) fun _ _ => ?_
  refine .bind (get_remaining _ _) fun operation _ => ?_
  dsimp only
  split
  · refine .bind (get_remaining _ _) fun packet _ => ?_
    split
    · exact .pure ()
    · exact .error id
  · exact .error id

theorem checkOperations_remaining {types : Registry} {operationEnum : String}
    {members seen : List String} {operations : List Operation}
    (h : ∀ o ∈ operations, o.WellFormed) :
    Remaining (checkOperations types operationEnum members seen operations) := by
  induction operations generalizing seen with
  | nil => exact .ok ()
  | cons operation rest ih =>
    obtain ⟨first, others⟩ := List.forall_mem_cons.mp h
    rw [checkOperations]
    split
    · exact .error id
    · split
      · exact .error id
      · refine .bind (Check.type_remaining first.event _) fun _ _ => ?_
        exact .bind (Check.type_remaining first.result _) fun _ _ => ih others

theorem compose_remaining {protocol domain : Document} (hprotocol : protocol.WellFormed)
    (hdomain : domain.WellFormed) : Remaining (compose protocol domain) := by
  have declarations : ∀ d ∈ protocol.types ++ domain.types, d.type.Declarable := fun d hd =>
    (List.mem_append.mp hd).elim (fun first => (hprotocol.types d first).type)
      fun second => (hdomain.types d second).type
  have operations : ∀ o ∈ protocol.operations ++ domain.operations, o.WellFormed := fun o ho =>
    (List.mem_append.mp ho).elim (hprotocol.operations o) (hdomain.operations o)
  unfold compose
  split
  · refine .bind (Registry.build_remaining declarations) fun types _ => ?_
    refine .bind (Names.build_remaining types _ _) fun names _ => ?_
    refine .bind (checkRoles_remaining names _) fun _ _ => ?_
    refine .bind (get_remaining types _) fun operationEnum _ => ?_
    exact .bind (checkOperations_remaining operations) fun _ _ => .pure _
  · exact .error id

/-- Whatever a data value is, if a document is decoded from it then the document is well formed, its
fields say what their nodes say, and composing it with another decoded document finds no fault that
decoding rules out. -/
theorem decoded_wellFormed {root : Value} {doc : Document} (h : Decode.document root = .ok doc) :
    doc.WellFormed ∧
    List.Forall₂ (fun node d => List.Forall₂ Field.Of (Decode.fieldNodes node) d.type.fields)
      (Decode.items root "types") doc.types ∧
    ∀ root' other fault, Decode.document root' = .ok other → compose doc other = .error fault →
      ¬ fault.IsRuledOut := by
  obtain ⟨wellFormed, fields⟩ := Decode.document_eq_ok h
  refine ⟨wellFormed, fields, fun root' other fault h' fails => ?_⟩
  exact compose_remaining wellFormed (Decode.document_eq_ok h').1 fault fails

/-- A protocol document without any operation. -/
def idleProtocol : Value :=
  .map [("schema", .map [("name", .text "wire"), ("version", .text "1")]),
    ("types", .list [.map [("name", .text "op_t"), ("kind", .map [("enum", .map [
      ("tag", .text "u128"),
      ("variants", .list [.map [("name", .text "noop"), ("value", .int 0)]])])])]]),
    ("client", .map [("library", .text "lib"), ("symbol-prefix", .text "wire"),
      ("roles", .map [("operation", .text "op_t"), ("status", .text "op_t"),
        ("packet", .text "op_t"), ("handle", .text "op_t")])])]

/-- A struct with two fields of one name, of which the second has a flag that it is not reserved. -/
def flaggedFields : Value :=
  .map [("schema", .map [("name", .text "ledger"), ("version", .text "7")]),
    ("types", .list [.map [("name", .text "entry_t"),
      ("kind", .map [("struct", .map [("fields", .list [
        .map [("name", .text "reserved"), ("type", .text "*[2]u64")],
        .map [("name", .text "reserved"), ("type", .text "u8"), ("reserved", .bool false)]])])])]])]

theorem decoded_wellFormed_flaggedFields : ∃ protocol domain,
    Decode.document idleProtocol = .ok protocol ∧ protocol.WellFormed ∧
    Decode.document flaggedFields = .ok domain ∧ domain.WellFormed ∧
    List.Forall₂ (fun node d => List.Forall₂ Field.Of (Decode.fieldNodes node) d.type.fields)
      (Decode.items flaggedFields "types") domain.types ∧
    domain.types.map (fun d => d.type.fields.map fun f => (f.name, f.reserved)) =
      [[("reserved", true), ("reserved", false)]] ∧
    compose protocol domain = .error (.fieldTwice "entry_t" "reserved") ∧
    ¬ (Fault.fieldTwice "entry_t" "reserved").IsRuledOut := by
  let protocol : Document := {
    metadata := ⟨"wire", 1, none⟩
    types := [⟨"op_t", .enum 128 [⟨"noop", 0⟩]⟩]
    mappings := []
    operations := []
    client := some ⟨"lib", "wire", ⟨"op_t", "op_t", "op_t", "op_t"⟩⟩ }
  let domain : Document := {
    metadata := ⟨"ledger", 7, none⟩
    types := [⟨"entry_t", .struct .cAbi [
      ⟨"reserved", .pointer (.array (.int 64 false) 2) false, true⟩,
      ⟨"reserved", .int 8 false, false⟩]⟩]
    mappings := []
    operations := [] }
  have first : Decode.document idleProtocol = .ok protocol := by with_unfolding_all rfl
  have second : Decode.document flaggedFields = .ok domain := by with_unfolding_all rfl
  have twice : compose protocol domain = .error (.fieldTwice "entry_t" "reserved") := by rfl
  obtain ⟨wellFormed, -, remaining⟩ := decoded_wellFormed first
  obtain ⟨wellFormed', fields, -⟩ := decoded_wellFormed second
  exact ⟨protocol, domain, first, wellFormed, second, wellFormed', fields, rfl, twice,
    remaining flaggedFields domain _ second twice⟩

end Composition
end NativeBindings
