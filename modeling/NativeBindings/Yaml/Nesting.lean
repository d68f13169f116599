import NativeBindings.Yaml.Outline

/-!
# From lexemes to an outline

Parts are opened and closed by the lexemes that go by. The open ones lie within each other, so they
form a stack. Each lexeme is offered to the innermost open part, which takes it, opens a new part
for it, or is closed and hands it on to the part around it. Outside of flow collections the
indentation decides: a collection stands at the column of its first entry, and what is indented
further is inside.
-/
namespace NativeBindings.Yaml

inductive Frame where
  | document (offset : Nat) (start : List Lexeme) (value : Option Part) (ending : List Lexeme)
  | documentEnd (ending : List Lexeme)
  | part (part : Part)
  deriving Inhabited

/-- Splits off the lexemes on the line of a key, such as its anchor. They follow the last lexeme
that starts a part, and the blanks after it. -/
def splitKeyLead (ts : List Lexeme) : List Lexeme × List Lexeme :=
  let line := (ts.reverse.takeWhile (!·.kind.startsPart)).reverse
  let before := ts.take (ts.length - line.length)
  (before ++ line.takeWhile (·.kind == .space), line.dropWhile (·.kind == .space))

/-- An entry without the lines after it that belong to the next entry: those from the second line
end on, if no value and no comment that is indented further than `indent` follow. -/
def Entry.splitLines {τ : Type} (indent : Nat) (entry : Entry τ) : Entry τ × List Lexeme :=
  match entry.separator with
  | none => (entry, [])
  | some separator =>
    let ends := separator.zipIdx.foldl (fun ends (t, i) =>
      match t.kind with
      | .newline => ends ++ [i]
      | .space => ends
      | .comment => if indent < t.indent then [] else ends
      | _ => []) []
    match ends with
    | _ :: second :: _ =>
      ({ entry with separator := some (separator.take second) }, separator.drop second)
    | _ => (entry, [])

/-- Adds a blank, a line end or a comment to the entries of a block collection at a column. A line
end belongs to a comment before it, and a comment that is indented further than the collection to
the value before it. -/
def addTrivia (indent : Nat) (entry : Entry Part) (before : List (Entry Part)) (t : Lexeme) :
    List (Entry Part) :=
  match entry.value, before with
  | some value, _ =>
    if t.kind == .newline && value.endsInComment then
      { entry with value := some (value.addEnding [t]) } :: before
    else { start := [t] } :: entry :: before
  | none, previous :: older =>
    let isFresh := entry.separator.isNone &&
      entry.start.all fun t => t.kind == .newline || t.kind == .space
    let value := previous.value.filter (·.ending?.isSome)
    if t.kind == .comment && indent < t.indent && isFresh then
      match value with
      | some value =>
        { previous with value := some (value.addEnding (entry.start ++ [t])) } :: older
      | none => entry.add t :: before
    else entry.add t :: before
  | none, [] => [entry.add t]

namespace Part

/-- In a flow sequence an entry without a colon has no key: what looked like one is its value. -/
def settleItems : Part → Part
  | flow opening indent entries ending =>
    if opening.kind == .opening false then flow opening indent (entries.map settle) ending
    else flow opening indent entries ending
  | other => other
where
  settle (entry : Entry Part) : Entry Part :=
    match entry.separator, entry.value with
    | some separator, none =>
      if hasKind .key entry.start || hasKind .value separator then entry
      else match entry.key with
        | none => { entry with start := entry.start ++ separator, separator := none }
        | some key =>
          if key.isFlow then
            { entry with key := none, separator := none, value := some (key.addEnding separator) }
          else
            { entry with
              key := none, separator := none, value := some key
              start := entry.start ++ separator }
    | _, _ => entry

/-- Splits off the lines at the end of a block collection that belong to what is around it: those
of an entry without content, if its comments are not indented like the collection. -/
def splitTrailing : Part → Part × Option (List Lexeme)
  | map offset indent entries =>
    let (entries, trailing) := go indent entries
    (map offset indent entries, trailing)
  | seq offset indent entries =>
    let (entries, trailing) := go indent entries
    (seq offset indent entries, trailing)
  | other => (other, none)
where
  go (indent : Nat) : List (Entry Part) → List (Entry Part) × Option (List Lexeme)
    | last :: before =>
      let isOutside := indent = 0 || last.start.all fun t => t.kind != .comment || t.indent < indent
      if last.isTrivia && isOutside then (before, some last.start) else (last :: before, none)
    | [] => ([], none)

end Part

namespace Frame

def indent : Frame → Nat
  | part inner => inner.indent?.getD 0
  | _ => 0

def isFlowCollection : Frame → Bool
  | part (.flow _ _ _ _) => true
  | _ => false

def takeKeyLead : Frame → List Lexeme × Frame
  | document offset start value ending =>
    let (kept, lead) := splitKeyLead start
    (lead, document offset kept value ending)
  | part (.map offset indent (entry :: before)) =>
    match entry.separator with
    | some separator =>
      let (kept, lead) := splitKeyLead separator
      (lead, part (.map offset indent ({ entry with separator := some kept } :: before)))
    | none =>
      let (kept, lead) := splitKeyLead entry.start
      (lead, part (.map offset indent ({ entry with start := kept } :: before)))
  | part (.seq offset indent (entry :: before)) =>
    let (kept, lead) := splitKeyLead entry.start
    (lead, part (.seq offset indent ({ entry with start := kept } :: before)))
  | other => ([], other)

/-- The part that a lexeme opens in a frame, and the frame, which may lose the lexemes on the line
of a key to it. -/
def opened? (frame : Frame) (t : Lexeme) : Option (Part × Frame) :=
  if t.kind.isFlowScalar then some (.flowScalar t none, frame)
  else match t.kind with
    | .blockHeader => some (.block t.indent [t] "", frame)
    | .opening _ => some (.flow t t.indent [] [], frame)
    | .item => some (.seq t.offset t.indent [{ start := [t] }], frame)
    | .key =>
      let (lead, frame) := frame.takeKeyLead
      some (.map t.offset t.indent [{ start := lead ++ [t], explicit := true }], frame)
    | .value =>
      let (lead, frame) := frame.takeKeyLead
      some (.map t.offset t.indent [{ start := lead, separator := some [t] }], frame)
    | _ => none

end Frame

/-- The state between two lexemes. -/
structure Nesting where
  /-- What is open, the innermost first. -/
  frames : List Frame := []
  /-- Only blanks and marks were on the line. -/
  fresh : Bool := true
  /-- The indentation of the line, its first marks included. -/
  indent : Nat := 0
  offset : Nat := 0
  onKeyLine : Bool := false
  /-- What is complete, the last first. -/
  pieces : List Piece := []
  deriving Inhabited

/-- What becomes of a lexeme: it has its place, or it is handed on. -/
inductive Placing where
  | placed (s : Nesting)
  | handed (s : Nesting)

namespace Nesting

def place (s : Nesting) (part : Part) : Option Nesting :=
  match s.frames with
  | [] => none
  | frame :: below =>
    let part : Part := match part with
      | .block _ lead text => .block frame.indent lead text
      | .flow opening indent entries ending =>
        .flow opening (if frame matches .document .. then 0 else indent) entries ending
      | other => other
    let part := part.settleItems
    let (core, trailing) := part.splitTrailing
    let back := fun frame : Frame => { s with frames := frame :: below }
    let outside := match trailing with
      | some start => [({ start } : Entry Part)]
      | none => []
    match frame with
    | .document offset start _ ending =>
      some (back (.document offset start (some core) (trailing.getD ending)))
    | .part (.map offset indent (entry :: before)) =>
      if entry.value.isSome then
        let next : Entry Part := { key := some part, separator := some [] }
        some { back (.part (.map offset indent (next :: entry :: before))) with onKeyLine := true }
      else if entry.separator.isSome then
        let entry := { entry with value := some core }
        some (back (.part (.map offset indent (outside ++ entry :: before))))
      else
        let entry := { entry with key := some part, separator := some [] }
        some { back (.part (.map offset indent (entry :: before))) with
               onKeyLine := !entry.explicit }
    | .part (.seq offset indent (entry :: before)) =>
      let entries : List (Entry Part) :=
        if entry.value.isSome then { value := some core } :: entry :: before
        else { entry with value := some core } :: before
      some (back (.part (.seq offset indent (outside ++ entries))))
    | .part (.flow opening indent entries ending) =>
      let fresh : Entry Part := { key := some part, separator := some [] }
      let entries := match entries with
        | [] => [fresh]
        | entry :: before =>
          if entry.value.isSome then fresh :: entry :: before
          else if entry.separator.isSome then { entry with value := some part } :: before
          else { entry with key := some part, separator := some [] } :: before
      some (back (.part (.flow opening indent entries ending)))
    | _ => none

def close (s : Nesting) : Option Nesting :=
  match s.frames with
  | [] => none
  | .document offset start value ending :: below =>
    some { s with frames := below, pieces := .document offset start value ending :: s.pieces }
  | .documentEnd ending :: below =>
    some { s with frames := below, pieces := .documentEnd ending :: s.pieces }
  | .part part :: below => { s with frames := below }.place part

def closeMany : Nat → Nesting → Option Nesting
  | 0, s => some s
  | n + 1, s => s.close >>= closeMany n

def closeAll (s : Nesting) : Option Nesting := closeMany s.frames.length s

/-- Closes the innermost frame, and hands the lexeme on. -/
def handOn (s : Nesting) : Option Placing := .handed <$> s.close

def push (s : Nesting) (part : Part) : Nesting := { s with frames := .part part :: s.frames }

def update (s : Nesting) (frame : Frame) : Nesting :=
  { s with frames := frame :: s.frames.drop 1 }

def openFor? (s : Nesting) (t : Lexeme) : Option Nesting := do
  let (part, frame) ← (← s.frames.head?).opened? t
  let s := if t.kind == .key || t.kind == .value then { s with onKeyLine := true } else s
  return (s.update frame).push part

def inStream (s : Nesting) (t : Lexeme) : Option Placing :=
  match t.kind with
  | .directive => some (.placed { s with pieces := .directive t.text :: s.pieces })
  | .byteOrderMark => some (.placed s)
  | .space => some (.placed s)
  | .comment => some (.placed s)
  | .newline => some (.placed s)
  | .documentMode => some (.placed { s with frames := [.document t.offset [] none []] })
  | .documentStart => some (.placed { s with frames := [.document t.offset [t] none []] })
  | _ => none

/-- Does a lexeme end the line of a node for what is around it? -/
def endsNode : LexemeKind → Bool
  | .comma => true
  | .documentStart => true
  | .documentEnd => true
  | .closing _ => true
  | .value => true
  | _ => false

/-- Places a lexeme after a complete node. The innermost frame takes it, and is closed at the end of
the line. -/
def afterNode (s : Nesting) (t : Lexeme) (extended : Frame) : Option Placing :=
  if endsNode t.kind then s.handOn
  else
    let s := s.update extended
    if t.kind == .newline then .placed <$> { s with onKeyLine := false }.close
    else some (.placed s)

def inDocument (s : Nesting) (offset : Nat) (start : List Lexeme) (value : Option Part)
    (ending : List Lexeme) (t : Lexeme) : Option Placing :=
  if value.isSome then s.afterNode t (.document offset start value (ending ++ [t]))
  else
    let added := .placed (s.update (.document offset (start ++ [t]) value ending))
    if t.kind == .documentStart then
      if start.all (·.kind.isTrivia) then some added else s.handOn
    else if t.kind.isTrivia || t.kind == .anchor || t.kind == .tag then some added
    else .placed <$> s.openFor? t

def inDocumentEnd (s : Nesting) (ending : List Lexeme) (t : Lexeme) : Option Placing :=
  if t.kind == .documentMode then some (.placed s)
  else
    let s := s.update (.documentEnd (ending ++ [t]))
    if t.kind == .newline then .placed <$> s.close else some (.placed s)

/-- Places a lexeme after a scalar or an alias. A colon makes it the first key of a mapping. -/
def inFlowScalar (s : Nesting) (scalar : Lexeme) (ending : Option (List Lexeme)) (t : Lexeme) :
    Option Placing :=
  if t.kind == .value then
    match s.frames with
    | _ :: around :: below =>
      let (start, around) := around.takeKeyLead
      let entry :=
        { start, key := some (.flowScalar scalar none), separator := some (ending.getD [] ++ [t]) }
      let map := .part (.map scalar.offset scalar.indent [entry])
      some (.placed { s with frames := map :: around :: below, onKeyLine := true })
    | _ => none
  else s.afterNode t (.part ((Part.flowScalar scalar ending).addEnding [t]))

/-- Places a lexeme after the header of a block scalar. The lines of the scalar complete it. -/
def inBlock (s : Nesting) (indent : Nat) (lead : List Lexeme) (t : Lexeme) : Option Placing :=
  if t.kind.isTrivia then some (.placed (s.update (.part (.block indent (lead ++ [t]) ""))))
  else if t.kind == .plain then
    let s := { s.update (.part (.block indent lead t.text)) with fresh := true, indent := 0 }
    .placed <$> s.close
  else s.handOn

/-- Places a colon in a mapping whose last entry has its key marked. -/
def valueOfExplicit (s : Nesting) (offset indent : Nat) (start : List Lexeme) (entry : Entry Part)
    (before : List (Entry Part)) (t : Lexeme) : Nesting :=
  let put := fun entries => s.update (.part (.map offset indent entries))
  let nested := fun entry => .map t.offset t.indent [entry]
  match entry.separator with
  | none =>
    if hasKind .newline entry.start then put ({ entry with separator := some [t] } :: before)
    else
      let (kept, lead) := splitKeyLead entry.start
      (put ({ entry with start := kept } :: before)).push
        (nested { start := lead, separator := some [t] })
  | some separator =>
    if entry.value.isSome then put ({ separator := some [t] } :: entry :: before)
    else if hasKind .value separator then
      (put (entry :: before)).push (nested { start, separator := some [t] })
    else if entry.key.any Part.isFlow && !hasKind .newline separator then
      let (kept, lead) := splitKeyLead entry.start
      (put ({ start := kept, explicit := true } :: before)).push
        (nested { start := lead, key := entry.key, separator := some (separator ++ [t]) })
    else put ({ entry with separator := some (separator ++ start ++ [t]) } :: before)

/-- Places a colon in a mapping whose last entry does not have its key marked. -/
def valueOfImplicit (s : Nesting) (offset indent : Nat) (atNext : Bool) (start : List Lexeme)
    (entry : Entry Part) (before : List (Entry Part)) (t : Lexeme) : Nesting :=
  let put := fun entries => s.update (.part (.map offset indent entries))
  match entry.separator with
  | none => put ({ entry with separator := some [t] } :: before)
  | some separator =>
    if entry.value.isSome || atNext then put ({ start, separator := some [t] } :: entry :: before)
    else if hasKind .value separator then
      (put (entry :: before)).push (.map t.offset t.indent [{ separator := some [t] }])
    else put ({ entry with separator := some (separator ++ [t]) } :: before)

/-- Places a lexeme that is no trivia in a block mapping that it is indented enough for. -/
def inMapAt (s : Nesting) (offset indent : Nat) (entry : Entry Part) (before : List (Entry Part))
    (t : Lexeme) : Option Placing :=
  let put := fun entries => s.update (.part (.map offset indent entries))
  let onKey := fun s : Nesting => some (Placing.placed { s with onKeyLine := true })
  let atColumn := !s.onKeyLine && t.indent == indent
  let atNext := atColumn && (entry.separator.isSome || entry.explicit) && t.kind != .item
  let isDone := atNext || entry.value.isSome
  let (entry, start) :=
    if atNext && entry.value.isNone then entry.splitLines indent else (entry, [])
  if t.kind == .anchor || t.kind == .tag then
    if isDone then onKey (put ({ start := start ++ [t] } :: entry :: before))
    else some (.placed (put (entry.add t :: before)))
  else if t.kind == .key then
    if entry.separator.isNone && !entry.explicit then
      onKey (put ({ entry with start := entry.start ++ [t], explicit := true } :: before))
    else if isDone then
      onKey (put ({ start := start ++ [t], explicit := true } :: entry :: before))
    else
      onKey ((put (entry :: before)).push
        (.map t.offset t.indent [{ start := [t], explicit := true }]))
  else if t.kind == .value then
    if entry.explicit then onKey (s.valueOfExplicit offset indent start entry before t)
    else onKey (s.valueOfImplicit offset indent atNext start entry before t)
  else if t.kind.isFlowScalar then
    let key := some (Part.flowScalar t none)
    if isDone then onKey (put ({ start, key, separator := some [] } :: entry :: before))
    else if entry.separator.isSome then
      some (.placed ((put (entry :: before)).push (.flowScalar t none)))
    else onKey (put ({ entry with key, separator := some [] } :: before))
  else
    let s := put (entry :: before)
    match s.openFor? t with
    | none => s.handOn
    | some opened =>
      if t.kind == .item then
        if !entry.explicit && entry.separator.any (!hasKind .newline ·) then
          .placed <$> s.place .misplaced
        else some (.placed opened)
      else if atColumn then .placed <$> (put ({ start } :: entry :: before)).openFor? t
      else some (.placed opened)

def inMap (s : Nesting) (offset indent : Nat) (entry : Entry Part) (before : List (Entry Part))
    (t : Lexeme) : Option Placing :=
  if t.kind.isTrivia then
    let s := if t.kind == .newline then { s with onKeyLine := false } else s
    some (.placed (s.update (.part (.map offset indent (addTrivia indent entry before t)))))
  else if indent ≤ t.indent then s.inMapAt offset indent entry before t
  else s.handOn

def inSeq (s : Nesting) (offset indent : Nat) (entry : Entry Part) (before : List (Entry Part))
    (t : Lexeme) : Option Placing :=
  let put := fun entries => some (.placed (s.update (.part (.seq offset indent entries))))
  let added := put (entry.add t :: before)
  let isProperty := t.kind == .anchor || t.kind == .tag
  if t.kind.isTrivia then put (addTrivia indent entry before t)
  else if isProperty && entry.value.isNone && indent < t.indent then added
  else if t.kind == .item && t.indent == indent then
    if entry.value.isSome || hasKind .item entry.start then
      put ({ start := [t] } :: entry :: before)
    else added
  else if indent < t.indent then
    match s.openFor? t with
    | some opened => some (.placed opened)
    | none => s.handOn
  else s.handOn

def inOpenFlow (s : Nesting) (opening : Lexeme) (indent : Nat) (entries : List (Entry Part))
    (t : Lexeme) : Option Placing :=
  let put := fun entries => s.update (.part (.flow opening indent entries []))
  let placed := fun entries => some (Placing.placed (put entries))
  let isProperty := t.kind == .anchor || t.kind == .tag
  let (isFresh, hasKey) := match entries with
    | [] => (true, false)
    | entry :: _ => (entry.value.isSome, entry.separator.isSome)
  let last := entries.head?.getD {}
  let before := entries.drop 1
  if t.kind == .comma || t.kind == .key then
    if entries.isEmpty || hasKey then placed ({ start := [t] } :: entries)
    else placed ({ last with start := last.start ++ [t] } :: before)
  else if t.kind == .value then
    if isFresh then placed ({ separator := some [t] } :: entries)
    else if hasKey then placed (last.add t :: before)
    else placed ({ last with separator := some [t] } :: before)
  else if t.kind.isTrivia || isProperty then
    if isFresh then placed ({ start := [t] } :: entries) else placed (last.add t :: before)
  else if t.kind.isFlowScalar then
    let scalar := Part.flowScalar t none
    if isFresh then placed ({ key := some scalar, separator := some [] } :: entries)
    else if hasKey then some (.placed (s.push scalar))
    else placed ({ last with key := some scalar, separator := some [] } :: before)
  else if t.kind matches .closing _ then
    some (.placed (s.update (.part (.flow opening indent entries [t]))))
  else match s.openFor? t with
    | some opened => some (.placed opened)
    | none => s.handOn

/-- Places a lexeme after a flow collection. A colon makes it the first key of a mapping, unless it
is a key already. -/
def inClosedFlow (s : Nesting) (opening : Lexeme) (indent : Nat) (entries : List (Entry Part))
    (ending : List Lexeme) (t : Lexeme) : Option Placing :=
  match s.frames with
  | _ :: around :: below =>
    let isKey : Bool := match around with
      | .part (.map _ column (entry :: _)) =>
        (t.kind == .value && column == indent) || (t.kind == .newline && entry.separator.isNone)
      | _ => false
    if isKey then s.handOn
    else if t.kind == .value && !around.isFlowCollection then
      let (start, around) := around.takeKeyLead
      let key := (Part.flow opening indent entries (ending.take 1)).settleItems
      let entry := { start, key := some key, separator := some (ending.drop 1 ++ [t]) }
      let map := .part (.map opening.offset indent [entry])
      some (.placed { s with frames := map :: around :: below, onKeyLine := true })
    else s.afterNode t (.part (.flow opening indent entries (ending ++ [t])))
  | _ => none

/-- Places a lexeme in a flow collection. One that is left is closed with those around it. -/
def inFlow (s : Nesting) (opening : Lexeme) (indent : Nat) (entries : List (Entry Part))
    (ending : List Lexeme) (t : Lexeme) : Option Placing :=
  if t.kind == .flowLeft then
    .placed <$> closeMany (s.frames.takeWhile (·.isFlowCollection)).length s
  else if ending.isEmpty then s.inOpenFlow opening indent entries t
  else s.inClosedFlow opening indent entries ending t

def offer (s : Nesting) (t : Lexeme) : Option Placing :=
  match s.frames with
  | [] => s.inStream t
  | .document offset start value ending :: _ => s.inDocument offset start value ending t
  | .documentEnd ending :: _ => s.inDocumentEnd ending t
  | .part part :: _ => match part with
    | .flowScalar scalar ending => s.inFlowScalar scalar ending t
    | .block indent lead _ => s.inBlock indent lead t
    | .map offset indent (entry :: before) => s.inMap offset indent entry before t
    | .seq offset indent (entry :: before) => s.inSeq offset indent entry before t
    | .flow opening indent entries ending => s.inFlow opening indent entries ending t
    | _ => none

/-- Offers a lexeme to one frame after the other. The number bounds how many. -/
def settle : Nat → Nesting → Lexeme → Option Nesting
  | 0, _, _ => none
  | fuel + 1, s, t => do
    match ← s.offer t with
    | .placed s => return s
    | .handed s => settle fuel s t

def isAfterDocument (s : Nesting) : Bool :=
  match s.frames with
  | .documentEnd _ :: _ => true
  | _ => false

/-- The state after a lexeme, which gets its place here. Marks count as indentation when nothing
else is before them on their line. -/
def next (s : Nesting) (t : Lexeme) : Option Nesting := do
  let t := { t with offset := s.offset, indent := s.indent }
  let s := if t.kind == .plain then { s with fresh := false } else s
  let s ← if t.kind == .documentEnd && !s.isAfterDocument then
      (fun s => { s with frames := [.documentEnd []] }) <$> s.closeAll
    else s.settle (s.frames.length + 1) t
  let s := { s with offset := s.offset + t.width }
  let indented := { s with indent := s.indent + t.width }
  return match t.kind with
    | .newline => { s with fresh := true, indent := 0 }
    | .space => if s.fresh && t.text.toList.head? == some ' ' then indented else s
    | .key => if s.fresh then indented else s
    | .value => if s.fresh then indented else s
    | .item => if s.fresh then indented else s
    | .documentMode => s
    | .flowLeft => s
    | .plain => s
    | _ => { s with fresh := false }

end Nesting

/-- The pieces of a text, if every lexeme has a place. -/
def outline (ts : List Lexeme) : Option (List Piece) := do
  let s ← ts.foldlM Nesting.next {}
  return (← s.closeAll).pieces.reverse

end NativeBindings.Yaml
