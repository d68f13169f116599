import NativeBindings.Yaml.Block
import NativeBindings.Yaml.Lead
import NativeBindings.Yaml.Quoted

/-!
# From an outline to nodes

The rules of the grammar that an outline leaves open: what may stand before and after a node, where
the entries of a collection start, which keys need a value and how long they may be. An outline that
breaks one of them has no nodes.

The functions for collections are given the one for the nodes inside.
-/
namespace NativeBindings.Yaml

structure Composed where
  node : Node
  stop : Nat
  deriving Inhabited

/-- How a part is read after its lead. -/
abbrev Composer := Part → Lead → Option Composed

/-- The longest distance between the start of a key and its colon. -/
def longestKey : Nat := 1024

/-- Reads the lexemes after a node that ends at `offset`: a comment, and where they end. -/
def readEnding (offset : Nat) (needsSpace : Bool) (ts : List Lexeme) : Option (String × Nat) :=
  go offset false "" "" ts
where
  go (offset : Nat) (spaced : Bool) (comment ends : String) :
      List Lexeme → Option (String × Nat)
    | [] => some (comment, offset)
    | t :: ts =>
      let offset := offset + t.width
      match t.kind with
      | .space => go offset true comment ends ts
      | .newline => go offset true comment (if comment.isEmpty then ends else ends ++ t.text) ts
      | .comment =>
        if needsSpace && !spaced then none
        else
          let text := if t.body.isEmpty then " " else t.body
          go offset spaced (joinComments ends comment text) "" ts
      | _ => none

def Lead.anchorName? (lead : Lead) : Option (Option String) :=
  match lead.anchor with
  | none => some none
  | some t => if t.body.isEmpty then none else some (some t.body)

def Lead.tagName? (handles : TagHandles) (lead : Lead) : Option (Option String) :=
  match lead.tag with
  | none => some none
  | some t => (Yaml.tagName? handles t.text).map fun name =>
    if name.isEmpty then none else some name

def Lead.notes? (handles : TagHandles) (lead : Lead) : Option Notes := do
  return { anchor := ← lead.anchorName?, tag := ← lead.tagName? handles
           blankBefore := lead.blankBefore, commentBefore := lead.comment }

/-- Where a node without text stands: after what comes before it, and after the blanks that follow
on the same line. -/
def emptyPosition (offset : Nat) (before : List Lexeme) : Nat :=
  let trailing := (before.reverse.takeWhile (·.kind.isTrivia)).reverse
  let width := fun ts : List Lexeme => ts.foldl (fun n t => n + t.width) 0
  let start := offset - width trailing
  if trailing.length = before.length then start
  else start + width (trailing.takeWhile (·.kind == .space))

def emptyNode (handles : TagHandles) (offset : Nat) (before : List Lexeme) (lead : Lead) :
    Option Composed := do
  let notes ← lead.notes? handles
  let notes := { notes with commentBefore := "", comment := lead.comment }
  let stop := if lead.comment.isEmpty then emptyPosition offset before else lead.stop
  return { node := .scalar notes .plain "", stop }

/-- The characters that a plain scalar cannot start with. -/
def isBadStart (c : Char) : Bool := "\t,%|>@\x60".toList.contains c

/-- How a scalar in flow style is written, and its text. -/
def scalarText? (t : Lexeme) : Option (ScalarStyle × String) :=
  let cs := t.text.toList
  match t.kind with
  | .plain => if cs.head?.any isBadStart then none else some (.plain, String.ofList (foldLines cs))
  | .singleQuoted => (singleQuoted? cs).map fun cs => (.singleQuoted, String.ofList cs)
  | .doubleQuoted => (doubleQuoted? cs).map fun cs => (.doubleQuoted, String.ofList cs)
  | _ => none

def composeAlias (t : Lexeme) (ending : List Lexeme) (lead : Lead) : Option Composed := do
  if t.body.isEmpty || lead.hasProperty then none
  let (comment, stop) ← readEnding t.stop true ending
  let notes := { blankBefore := lead.blankBefore, commentBefore := lead.comment, comment }
  return { node := .alias notes t.body none, stop }

def composeFlowScalar (handles : TagHandles) (t : Lexeme) (ending : List Lexeme) (lead : Lead) :
    Option Composed := do
  let (style, text) ← scalarText? t
  let (comment, stop) ← readEnding t.stop true ending
  let notes ← lead.notes? handles
  let notes := { notes with comment }
  let notes := if t.kind == .plain && t.text.isEmpty && !lead.comment.isEmpty then
    { notes with commentBefore := "", comment := lead.comment } else notes
  return { node := .scalar notes style text, stop }

/-- The comment after the header of a block scalar, which has to follow a blank. -/
def headerComment? (after : List Lexeme) : Option String :=
  match after.find? (·.kind == .comment) with
  | none => some ""
  | some t => if after.head?.any (·.kind == .space) then some t.body else none

def composeBlock (handles : TagHandles) (atRoot : Bool) (indent : Nat) (header : Lexeme)
    (after : List Lexeme) (text : String) (lead : Lead) : Option Composed := do
  let read ← BlockHeader.ofChars? header.text.toList
  let comment ← headerComment? after
  let content ← blockText? read indent atRoot text.toList
  let notes ← lead.notes? handles
  let stop := ((header :: after).getLast?.getD header).stop + Text.width text
  return { node := .scalar { notes with comment } .block (String.ofList content), stop }

/-- The notes of a collection. The tag of a lone exclamation mark is that of its kind. -/
def collectionNotes? (handles : TagHandles) (lead : Lead) (kind comment : String) :
    Option Notes := do
  let notes ← lead.notes? handles
  let tag := if notes.tag == some "!" then some (standardTag kind) else notes.tag
  return { notes with tag, comment }

/-- What has been read of a collection; nodes and pairs are in reverse. -/
structure Reading where
  items : List Node := []
  pairs : List Pair := []
  comment : String := ""
  offset : Nat
  /-- Where the last entry that holds only comments ends. -/
  commentStop : Option Nat := none

namespace Reading

def addPair (r : Reading) (pair : Pair) (offset : Nat) : Option Reading :=
  if hasKey r.pairs pair.key then none
  else some { r with pairs := pair :: r.pairs, offset }

def addComment (r : Reading) (comment : String) : Reading :=
  if comment.isEmpty then r else { r with comment := joinComments "\n" r.comment comment }

/-- Adds a comment to the last entry. -/
def remark (r : Reading) (comment : String) : Reading :=
  match r.items, r.pairs with
  | item :: items, _ => { r with items := item.addComment comment :: items }
  | [], pair :: pairs => { r with pairs := pair.addComment comment :: pairs }
  | [], [] => r

end Reading

/-- Reads what is there, or the empty node after a lead. -/
def composeOrEmpty (compose : Composer) (handles : TagHandles) (part : Option Part)
    (before : List Lexeme) (lead : Lead) : Option Composed :=
  match part with
  | some part => compose part lead
  | none => emptyNode handles lead.stop before lead

/-- Can a key stand in a block mapping without a mark? It has to be on one line. -/
def isImplicitKey (key : Option Part) (lead : Lead) : Bool :=
  lead.lineEnd.isNone && key.all fun key => !key.hasLineEnd

/-- Is a part where an entry of a block mapping at a column may start? -/
def startsAt (indent : Nat) : Part → Bool
  | .seq _ _ _ => false
  | part => part.indent?.all (· == indent)

def composeMapEntry (compose : Composer) (handles : TagHandles) (indent : Nat) (r : Reading)
    (entry : Entry Part) : Option Reading := do
  let separator := entry.separator.getD []
  let lead ← Lead.read
    { mark := .key, upcoming := .first entry.key separator, offset := r.offset
      parentIndent := indent, fresh := true } entry.start
  let isImplicit := lead.mark.isNone
  if isImplicit && !entry.key.all (startsAt indent) then none
  if lead.mark.any (·.indent != indent) then none
  if isImplicit && !lead.hasProperty && entry.separator.isNone then
    return { r.addComment lead.comment with commentStop := some lead.stop }
  if isImplicit && !isImplicitKey entry.key lead then none
  let key ← composeOrEmpty compose handles entry.key entry.start lead
  let valueLead ← Lead.read
    { mark := .value, upcoming := .first entry.value [], offset := key.stop, parentIndent := indent
      fresh := entry.key.all fun key => key matches .block .. } separator
  match valueLead.mark with
  | some colon =>
    let isNested := entry.value.any (· matches .map ..) && !valueLead.hasLineEnd
    if isImplicit && (isNested || lead.start + longestKey < colon.offset) then none
    let value ← composeOrEmpty compose handles entry.value separator valueLead
    r.addPair (.full key.node value.node) value.stop
  | none =>
    if isImplicit then none
    r.addPair (.bare (key.node.addComment valueLead.comment)) valueLead.stop

/-- Reads a block mapping. Comments at its end are not followed by anything. -/
def composeMap (compose : Composer) (handles : TagHandles) (offset indent : Nat)
    (entries : List (Entry Part)) (lead : Lead) : Option Composed := do
  let r ← entries.foldlM (composeMapEntry compose handles indent) { offset }
  if r.commentStop.any fun stop => stop != 0 && stop < r.offset then none
  let notes ← collectionNotes? handles lead "map" r.comment
  return { node := .map notes r.pairs.reverse, stop := r.commentStop.getD r.offset }

def composeSeqEntry (compose : Composer) (handles : TagHandles) (indent : Nat) (r : Reading)
    (entry : Entry Part) : Option Reading := do
  let lead ← Lead.read
    { mark := .item, upcoming := .first entry.value [], offset := r.offset, parentIndent := indent
      fresh := true } entry.start
  if lead.mark.isNone then
    if lead.hasProperty || entry.value.isSome then none
    let comment := if lead.comment.isEmpty then r.comment else lead.comment
    return { r with comment, commentStop := some lead.stop }
  let item ← composeOrEmpty compose handles entry.value entry.start lead
  return { r with items := item.node :: r.items, offset := item.stop }

/-- Reads a block sequence. Its properties stand on a line of their own. -/
def composeSeq (compose : Composer) (handles : TagHandles) (offset indent : Nat)
    (entries : List (Entry Part)) (lead : Lead) : Option Composed := do
  let properties := (lead.anchor.toList ++ lead.tag.toList).map (·.offset)
  let isOutside := fun property : Nat => lead.lineEnd.any fun t => property < t.offset
  if !properties.all isOutside then none
  let r ← entries.foldlM (composeSeqEntry compose handles indent) { offset }
  let notes ← collectionNotes? handles lead "seq" r.comment
  return { node := .seq notes r.items.reverse, stop := r.commentStop.getD r.offset }

/-- The comment right after a comma, which belongs to the entry before it. -/
def commentOfPrevious (ts : List Lexeme) : String :=
  match ts.dropWhile fun t => t.kind == .comma || t.kind == .space with
  | t :: _ => if t.kind == .comment then t.body else ""
  | [] => ""

structure FlowPlace where
  isMap : Bool
  indent : Nat
  count : Nat

def composeFlowPair (compose : Composer) (handles : TagHandles) (place : FlowPlace) (lead : Lead)
    (r : Reading) (entry : Entry Part) : Option Reading := do
  let separator := entry.separator.getD []
  let key ← composeOrEmpty compose handles entry.key entry.start lead
  let valueLead ← Lead.read
    { inFlow := true, mark := .value, upcoming := .first entry.value [], offset := key.stop
      parentIndent := place.indent, fresh := false } separator
  if entry.key.any (·.isBlockCollection) || entry.value.any (·.isBlockCollection) then none
  if valueLead.mark.isNone && entry.value.isSome then none
  let isImplicit := !place.isMap && lead.mark.isNone
  if valueLead.mark.any fun colon => isImplicit &&
      (hasKind .newline (separator.takeWhile (·.offset != colon.offset)) ||
        lead.start + longestKey < colon.offset) then none
  let (pair, stop) ←
    if valueLead.mark.isSome then do
      let value ← composeOrEmpty compose handles entry.value separator valueLead
      pure (Pair.full key.node value.node, value.stop)
    else pure (Pair.bare (key.node.addComment valueLead.comment), valueLead.stop)
  if place.isMap then r.addPair pair stop
  else return { r with items := .map {} [pair] :: r.items, offset := stop }

/-- Reads an entry of a flow collection. Entries are separated by commas; only the last one may be
empty. -/
def composeFlowEntry (compose : Composer) (handles : TagHandles) (place : FlowPlace) (r : Reading)
    (entryAt : Entry Part × Nat) : Option Reading := do
  let (entry, index) := entryAt
  let lead ← Lead.read
    { inFlow := true, mark := .key, upcoming := .first entry.key (entry.separator.getD [])
      offset := r.offset, parentIndent := place.indent, fresh := false } entry.start
  let isUnmarked := lead.mark.isNone
  if index = 0 && lead.comma then none
  if isUnmarked && !lead.hasProperty && entry.separator.isNone && entry.value.isNone then
    if index + 1 < place.count then none
    return { r.addComment lead.comment with offset := lead.stop }
  if isUnmarked && !place.isMap && entry.key.any (·.hasLineEnd) then none
  if index != 0 && !lead.comma then none
  let ofPrevious := if index = 0 || lead.comment.isEmpty then "" else commentOfPrevious entry.start
  let r := r.remark ofPrevious
  let lead := if ofPrevious.isEmpty then lead
    else { lead with
      comment := String.ofList (lead.comment.toList.drop (ofPrevious.toList.length + 1)) }
  if !place.isMap && entry.separator.isNone && isUnmarked then
    let item ← composeOrEmpty compose handles entry.value [] lead
    if entry.value.any (·.isBlockCollection) then none
    return { r with items := item.node :: r.items, offset := item.stop }
  else composeFlowPair compose handles place lead r entry

def composeFlow (compose : Composer) (handles : TagHandles) (opening : Lexeme) (indent : Nat)
    (entries : List (Entry Part)) (ending : List Lexeme) (lead : Lead) : Option Composed := do
  let isMap := opening.kind == .opening true
  let place := { isMap, indent, count := entries.length }
  let r ← entries.zipIdx.foldlM (composeFlowEntry compose handles place) { offset := opening.stop }
  let bracket ← ending.head?
  if bracket.kind != .closing isMap then none
  let (comment, stop) ← readEnding bracket.stop true (ending.drop 1)
  let r := r.addComment comment
  if isMap then
    let notes ← collectionNotes? handles lead "map" r.comment
    return { node := .map notes r.pairs.reverse, stop }
  else
    let notes ← collectionNotes? handles lead "seq" r.comment
    return { node := .seq notes r.items.reverse, stop }

/-- Reads a part, through at most `depth` collections. -/
def compose (handles : TagHandles) : (depth : Nat) → (atRoot : Bool) → Composer
  | 0, _, _, _ => none
  | depth + 1, atRoot, part, lead =>
    let inner := compose handles depth false
    match part with
    | .flowScalar t ending =>
      if t.kind == .alias then composeAlias t (ending.getD []) lead
      else composeFlowScalar handles t (ending.getD []) lead
    | .block indent (header :: after) text =>
      composeBlock handles atRoot indent header after text lead
    | .map offset indent entries => composeMap inner handles offset indent entries.reverse lead
    | .seq offset indent entries => composeSeq inner handles offset indent entries.reverse lead
    | .flow opening indent entries ending =>
      composeFlow inner handles opening indent entries.reverse ending lead
    | _ => none

/-- Reads a document: its node, and whether a line marks its start. The number bounds its depth. A
block collection does not start on that line. -/
def composeDocument (handles : TagHandles) (depth offset : Nat) (start : List Lexeme)
    (value : Option Part) (ending : List Lexeme) : Option (Node × Bool) := do
  let lead ← Lead.read
    { mark := .documentStart, upcoming := .first value ending, offset, parentIndent := 0
      fresh := true } start
  if lead.mark.isSome && value.any (·.isBlockCollection) && !lead.hasLineEnd then none
  let root ← composeOrEmpty (compose handles depth true) handles value start lead
  let _ ← readEnding root.stop false ending
  return (root.node, lead.mark.isSome)

end NativeBindings.Yaml
