import NativeBindings.Fault
import NativeBindings.Yaml.Compose
import NativeBindings.Yaml.FlowText
import NativeBindings.Yaml.Nesting
import NativeBindings.Yaml.Scan

/-!
# Reading YAML

From a text to its tree of nodes, and to the value that this stands for.
-/
namespace NativeBindings.Yaml

/-!
## What nodes stand for

A tree of nodes stands for a value. Keys become strings, and an alias stands for what the node with
its anchor stands for. An anchor may not be used too often: its uses, multiplied with those that it
leads to itself, are limited.

An alias inside of the node it names makes a value that contains itself. Such a value is only ever
looked at to a certain depth, so it is unrolled that far. In a list that holds itself directly or in
lists, it is the empty list, as which it is written.
-/

/-- An anchor that has been met. -/
structure AnchorUse where
  node : Node
  value : Option Value := none
  /-- The number of its aliases, and one. -/
  count : Nat := 1
  /-- The most uses of an alias in its node, once that is known and not zero. -/
  weight : Nat := 0
  deriving Inhabited

/-- The most that the count of an anchor may come to, multiplied with its weight. -/
def mostUses : Nat := 100

structure Evaluation where
  anchors : Array AnchorUse := #[]
  isCyclic : Bool := false
  deriving Inhabited

mutual

/-- The most uses of an alias in a node; without aliases, one. -/
def Node.weight (anchors : Array AnchorUse) : Node → Nat
  | .alias _ _ target => ((target.bind (anchors[·]?)).map fun a => a.count * a.weight).getD 0
  | .scalar _ _ _ => 1
  | .seq _ items => itemsWeight anchors items
  | .map _ pairs => pairsWeight anchors pairs

def itemsWeight (anchors : Array AnchorUse) : List Node → Nat
  | [] => 0
  | item :: rest => max (item.weight anchors) (itemsWeight anchors rest)

def pairsWeight (anchors : Array AnchorUse) : List Pair → Nat
  | [] => 0
  | .bare key :: rest => max (max (key.weight anchors) 1) (pairsWeight anchors rest)
  | .full key value :: rest =>
    max (max (key.weight anchors) (value.weight anchors)) (pairsWeight anchors rest)

end

abbrev Evaluate (α : Type) := StateT Evaluation Option α

namespace Evaluate

/-- Notes an anchor, if there is one, and gives its number. -/
def announce (node : Node) (value : Option Value) : Evaluate (Option Nat) := do
  if node.notes.anchor.isNone then return none
  let e ← get
  set { e with anchors := e.anchors.push { node, value } }
  return some e.anchors.size

def settle (anchor : Option Nat) (value : Value) : Evaluate Unit :=
  match anchor with
  | none => return
  | some i => modify fun e =>
    { e with anchors := e.anchors.modify i fun use => { use with value := some value } }

/-- What an alias stands for. `lists` are the anchors of the lists that it stands in directly, and
`previous` are the values that anchors had before the value is unrolled once more. -/
def follow (previous : Array Value) (lists : List Nat) (target : Nat) : Evaluate Value := do
  let e ← get
  let some use := e.anchors[target]? | failure
  let use := { use with count := use.count + 1 }
  let anchors := e.anchors.set! target use
  let use := { use with weight := if use.weight = 0 then use.node.weight anchors else use.weight }
  if mostUses < use.count * use.weight then failure
  let e := { e with anchors := anchors.set! target use }
  match use.value with
  | some value =>
    set e
    return value
  | none =>
    set { e with isCyclic := true }
    if lists.contains target then return .list []
    else return previous[target]?.getD (if use.node matches .map .. then .map [] else .list [])

end Evaluate

/-- A key as a string: null is the empty one, and a collection is as it is written. -/
def keyString? (handles : TagHandles) (key : Node) (value : Value) : Option String :=
  match value with
  | .null => some ""
  | .list _ => flowText? handles key
  | .map _ => flowText? handles key
  | other => some other.plainText

mutual

def nodeValue (handles : TagHandles) (previous : Array Value) (lists : List Nat) :
    Node → Evaluate Value
  | .alias _ _ target => do
    let some i := target | failure
    Evaluate.follow previous lists i
  | .scalar notes style text => do
    let value := scalarValue notes.tag (style == .plain) text
    let _ ← Evaluate.announce (.scalar notes style text) (some value)
    return value
  | .seq notes items => do
    let anchor ← Evaluate.announce (.seq notes items) none
    let values ← itemValues handles previous (anchor.toList ++ lists) items
    Evaluate.settle anchor (.list values)
    return .list values
  | .map notes pairs => do
    let anchor ← Evaluate.announce (.map notes pairs) none
    let entries ← pairValues handles previous [] pairs
    Evaluate.settle anchor (.map entries)
    return .map entries

def itemValues (handles : TagHandles) (previous : Array Value) (lists : List Nat) :
    List Node → Evaluate (List Value)
  | [] => return []
  | item :: rest => do
    let value ← nodeValue handles previous lists item
    return value :: (← itemValues handles previous lists rest)

/-- The entries before, with those that pairs stand for. -/
def pairValues (handles : TagHandles) (previous : Array Value)
    (before : List (String × Value)) : List Pair → Evaluate (List (String × Value))
  | [] => return before
  | .bare key :: rest => do
    let keyValue ← nodeValue handles previous [] key
    let some name := keyString? handles key keyValue | failure
    pairValues handles previous (Value.insert before name .null) rest
  | .full key value :: rest => do
    let keyValue ← nodeValue handles previous [] key
    let some name := keyString? handles key keyValue | failure
    let value ← nodeValue handles previous [] value
    pairValues handles previous (Value.insert before name value) rest

end

/-- How often a value that contains itself is unrolled: more often than maps and lists lie within
each other in a document. -/
def unrollings : Nat := 12

/-- Evaluates a node over and over, each time with the values that anchors had the time before. -/
def unroll (handles : TagHandles) (node : Node) : Nat → Array Value → Option Value
  | 0, _ => none
  | rounds + 1, previous => do
    let (value, e) ← (nodeValue handles previous [] node).run {}
    if !e.isCyclic || rounds = 0 then return value
    unroll handles node rounds (e.anchors.map fun use => use.value.getD .null)

def Node.value? (handles : TagHandles) (root : Node) : Option Value := do
  let (linked, _) ← root.link []
  unroll handles linked unrollings #[]

/-!
## Texts

A text is one document at most, with directives before it.
Whatever is wrong with a text is one and the same fault.
-/

def directiveWords (line : List Char) : List String :=
  ((line.map fun c => if c == '\t' then ' ' else c).splitOn ' ').filterMap fun word =>
    if word.isEmpty then none else some (String.ofList word)

/-- What a directive adds to the handles. A version has to look like one, a handle needs two words,
and other directives are passed over. -/
def readDirective (handles : TagHandles) (line : String) : Option TagHandles :=
  let isNumber := fun cs : List Char => !cs.isEmpty && cs.all (Text.isDigitOf 10)
  match directiveWords (Text.trimChars line.toList) with
  | ["%YAML", version] =>
    let parts := version.toList.splitOn '.'
    if parts.length = 2 && parts.all isNumber then some handles else none
  | "%YAML" :: _ => none
  | ["%TAG", handle, start] => some (handles.set handle start)
  | "%TAG" :: _ => none
  | _ => some handles

structure Progress where
  handles : TagHandles := standardHandles
  hasDirectives : Bool := false
  /-- The document, and the handles of its tags. -/
  document : Option (Node × TagHandles) := none

/-- Reads a piece of a text; the number bounds the depth of a document. A document with directives
starts with a line that says so. -/
def Progress.add (depth : Nat) (p : Progress) : Piece → Option Progress
  | .directive text => do
    return { p with handles := ← readDirective p.handles text, hasDirectives := true }
  | .document offset start value ending => do
    if p.document.isSome then none
    let (root, isMarked) ← composeDocument p.handles depth offset start value ending
    if p.hasDirectives && !isMarked then none
    return { handles := standardHandles, document := some (root, p.handles) }
  | .documentEnd ending => do
    if p.document.isNone then none
    let _ ← readEnding 0 true ending
    return p

/-- The value of a text, if it is well formed. Without a document it is null. -/
def value? (text : String) : Option Value := do
  let ts ← scan text
  let p ← (← outline ts).foldlM (Progress.add (ts.length + 1)) {}
  match p.document with
  | some (root, handles) => root.value? handles
  | none => if p.hasDirectives then none else some .null

def read (text : String) : Except Fault Value :=
  match value? text with
  | some value => .ok value
  | none => .error .malformedText

end NativeBindings.Yaml
