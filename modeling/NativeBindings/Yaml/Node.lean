import NativeBindings.Data.Value
import NativeBindings.Text

/-!
# Nodes of a YAML document

A document is a tree of nodes, with tags and scalars at its leaves.
-/
namespace NativeBindings.Yaml

/-!
## Tags

A tag names what a node is. It is written in full between angle brackets, or as a handle that
directives explain and a rest, or it is local to the text. Reading a tag and writing its name go
through the same handles.
-/

def standardTagStart : String := "tag:yaml.org,2002:"

def standardTag (kind : String) : String := standardTagStart ++ kind

/-- The shorthands of tags: what each handle stands for. -/
abbrev TagHandles := List (String × String)

def standardHandles : TagHandles := [("!!", standardTagStart)]

def TagHandles.set (handles : TagHandles) (handle start : String) : TagHandles :=
  if handles.any (·.1 == handle) then
    handles.map fun entry => if entry.1 == handle then (handle, start) else entry
  else handles ++ [(handle, start)]

/-- The bytes of the rest of a tag, in which a percent sign and two digits are a byte. -/
def tagBytes : List Char → List UInt8
  | '%' :: a :: b :: cs => (Text.digitsValue 16 [a, b]).toUInt8 :: tagBytes cs
  | c :: cs => c.toNat.toUInt8 :: tagBytes cs
  | [] => []

/-- The name of a tag: in full between angle brackets, or a handle and a rest. The tag of a lone
exclamation mark keeps it. There must be a rest, and the handle must be known or local. -/
def tagName? (handles : TagHandles) (tag : String) : Option String :=
  match tag.toList with
  | ['!'] => some "!"
  | '!' :: '<' :: cs =>
    let name := String.ofList cs.dropLast
    if cs.getLast? == some '>' && name != "!" && name != "!!" then some name else none
  | cs =>
    let rest := (cs.reverse.takeWhile (· != '!')).reverse
    let handle := String.ofList (cs.take (cs.length - rest.length))
    if rest.isEmpty then none
    else match handles.lookup handle with
      | some start => (String.fromUTF8? ⟨(tagBytes rest).toArray⟩).map (start ++ ·)
      | none => if handle = "!" then some tag else none

def tagChar (c : Char) : String :=
  match c with
  | '!' => "%21"
  | ',' => "%2C"
  | '[' => "%5B"
  | ']' => "%5D"
  | '\x7b' => "%7B"
  | '\x7d' => "%7D"
  | c => c.toString

/-- The tag of a name, by the first handle that fits. -/
def tagText (handles : TagHandles) (name : String) : String :=
  match handles.find? fun (_, start) => start.toList.isPrefixOf name.toList with
  | some (handle, start) =>
    handle ++ String.join ((name.toList.drop start.toList.length).map tagChar)
  | none => if name.toList.head? == some '!' then name else "!<" ++ name ++ ">"

/-!
## Scalars

What a plain scalar stands for. Null, booleans, integers and floats each have their spellings, and
every other text stands for itself. A tag overrides this, as far as the text can be read so.
-/

open Text

def nullSpellings : List String := ["", "~", "null", "Null", "NULL"]

def trueSpellings : List String := ["true", "True", "TRUE"]

def falseSpellings : List String := ["false", "False", "FALSE"]

def infinitySpellings : List String := [".inf", ".Inf", ".INF"]

/-- The spellings of the number that is none. -/
def nanSpellings : List String := [".nan", ".NaN", ".NAN"]

/-- An integer: decimal with an optional sign, or octal or hexadecimal after a lower case mark. -/
def integer? (s : String) : Option Int :=
  match s.toList with
  | '0' :: 'o' :: cs => (numeral? 8 cs).map fun n => (n : Int)
  | '0' :: 'x' :: cs => (numeral? 16 cs).map fun n => (n : Int)
  | cs => signedNumeral? cs

def float? (s : String) : Option Binary64 :=
  let (negative, unsigned) := DecimalLiteral.sign s.toList
  if String.ofList unsigned ∈ infinitySpellings then some (.infinite negative)
  else if s ∈ nanSpellings then some .nan
  else (DecimalLiteral.read? s.toList).map (·.value)

def plainValue (s : String) : Value :=
  if s ∈ nullSpellings then .null
  else if s ∈ trueSpellings then .bool true
  else if s ∈ falseSpellings then .bool false
  else match integer? s with
    | some n => .int n
    | none => match float? s with
      | some x => .double x
      | none => .text s

def scalarTag : Value → String
  | .null => standardTag "null"
  | .bool _ => standardTag "bool"
  | .int _ => standardTag "int"
  | .double _ => standardTag "float"
  | _ => standardTag "str"

/-- What a scalar stands for. Without a tag only plain scalars are looked at; with the tag of null,
booleans, integers or floats the text must be spelled so, or it stands for itself. -/
def scalarValue (tag : Option String) (isPlain : Bool) (s : String) : Value :=
  match tag with
  | none => if isPlain then plainValue s else .text s
  | some name =>
    let value := plainValue s
    if scalarTag value = name then value else .text s

/-!
## Nodes

A node remembers how it was written, its anchor and tag and the comments around it, because a
collection that is a key is written again.
-/

inductive ScalarStyle where
  | plain | singleQuoted | doubleQuoted | block
  deriving DecidableEq, Repr, Inhabited

/-- What a node carries besides its content. Comments are without their first mark, and empty if
there are none. -/
structure Notes where
  anchor : Option String := none
  tag : Option String := none
  /-- Is there an empty line before the node? -/
  blankBefore : Bool := false
  commentBefore : String := ""
  comment : String := ""
  deriving DecidableEq, Repr, Inhabited

mutual

/-- A node. An alias stands for the last node before it with the anchor it names; which of all
anchors that is, is found once the whole tree is there. -/
inductive Node where
  | alias (notes : Notes) (name : String) (target : Option Nat)
  | scalar (notes : Notes) (style : ScalarStyle) (text : String)
  | seq (notes : Notes) (items : List Node)
  | map (notes : Notes) (pairs : List Pair)

/-- A key with its value, or a key alone. -/
inductive Pair where
  | full (key value : Node)
  | bare (key : Node)

end

instance : Inhabited Node := ⟨.alias {} "" none⟩

instance : Inhabited Pair := ⟨.bare default⟩

def joinComments (separator first second : String) : String :=
  if first.isEmpty then second else first ++ separator ++ second

namespace Node

def notes : Node → Notes
  | .alias notes _ _ => notes
  | scalar notes _ _ => notes
  | seq notes _ => notes
  | map notes _ => notes

def mapNotes (f : Notes → Notes) : Node → Node
  | .alias notes name target => .alias (f notes) name target
  | scalar notes style text => scalar (f notes) style text
  | seq notes items => seq (f notes) items
  | map notes pairs => map (f notes) pairs

def addComment (node : Node) (comment : String) : Node :=
  if comment.isEmpty then node
  else node.mapNotes fun notes => { notes with comment := joinComments "\n" notes.comment comment }

def scalar? : Node → Option Value
  | scalar notes style text => some (scalarValue notes.tag (style == .plain) text)
  | _ => none

def isCollection : Node → Bool
  | seq _ _ => true
  | map _ _ => true
  | _ => false

end Node

namespace Pair

def key : Pair → Node
  | full key _ => key
  | bare key => key

def value? : Pair → Option Node
  | full _ value => some value
  | bare _ => none

def addComment (pair : Pair) (comment : String) : Pair :=
  match pair with
  | full key value => full key (value.addComment comment)
  | bare key => bare (key.addComment comment)

end Pair

mutual

/-- Finds the targets of the aliases in a node. `anchors` are the names of the anchors before it,
the last one first; those of the node and the nodes in it are added. An alias without a target is
an error. -/
def Node.link (anchors : List String) : Node → Option (Node × List String)
  | .alias notes name _ =>
    (anchors.reverse.zipIdx.reverse.find? (·.1 == name)).map fun (_, i) =>
      (.alias notes name (some i), anchors)
  | .scalar notes style text => some (.scalar notes style text, notes.anchor.toList ++ anchors)
  | .seq notes items => do
    let (items, anchors) ← linkItems (notes.anchor.toList ++ anchors) items
    return (.seq notes items, anchors)
  | .map notes pairs => do
    let (pairs, anchors) ← linkPairs (notes.anchor.toList ++ anchors) pairs
    return (.map notes pairs, anchors)

def linkItems (anchors : List String) : List Node → Option (List Node × List String)
  | [] => some ([], anchors)
  | item :: rest => do
    let (item, anchors) ← item.link anchors
    let (rest, anchors) ← linkItems anchors rest
    return (item :: rest, anchors)

def linkPairs (anchors : List String) : List Pair → Option (List Pair × List String)
  | [] => some ([], anchors)
  | .bare key :: rest => do
    let (key, anchors) ← key.link anchors
    let (rest, anchors) ← linkPairs anchors rest
    return (.bare key :: rest, anchors)
  | .full key value :: rest => do
    let (key, anchors) ← key.link anchors
    let (value, anchors) ← value.link anchors
    let (rest, anchors) ← linkPairs anchors rest
    return (.full key value :: rest, anchors)

end

/-- Are two scalar keys equal? Numbers are equal only to numbers of their kind. -/
def sameKey : Value → Value → Bool
  | .null, .null => true
  | .bool a, .bool b => a == b
  | .int a, .int b => a == b
  | .double a, .double b => a != .nan && a.text == b.text
  | .text a, .text b => a == b
  | _, _ => false

/-- Has one of the pairs a scalar key that is equal to another one? -/
def hasKey (pairs : List Pair) (key : Node) : Bool :=
  key.scalar?.any fun value => pairs.any fun pair => pair.key.scalar?.any (sameKey value)

end NativeBindings.Yaml
