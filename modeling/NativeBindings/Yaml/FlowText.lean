import NativeBindings.Yaml.Node
import NativeBindings.Yaml.Wrap

/-!
# Writing nodes

A collection that is a key is written in flow style. Scalars keep their style as far as they can be
read back in it, numbers keep their radix and the zeros at their end, and comments stay where they
are. A collection is on one line if it fits and holds neither comments nor lines that were broken.

An anchor with a character that anchors cannot have makes the whole unwritable.
-/
namespace NativeBindings.Yaml

open Text

/-! ## Comments -/

def endsCommentLine (c : Char) : Bool :=
  c == '\n' || c == '\r' || c == '\u2028' || c == '\u2029'

def endsHere (cs : List Char) : Bool := cs.head?.all endsCommentLine

/-- Puts a mark before each line that is not empty. A line that is a single space becomes a mark
alone. -/
def markLines : (atStart : Bool) → List Char → List Char
  | _, [] => []
  | true, c :: cs =>
    if endsCommentLine c then c :: markLines true cs
    else if c == ' ' && endsHere cs then '#' :: markLines false cs
    else '#' :: c :: markLines false cs
  | false, c :: cs => c :: markLines (endsCommentLine c) cs

def commentText (comment : String) : String := String.ofList (markLines true comment.toList)

def blanks (n : Nat) : String := copies n ' '

def indentFrom (indent : Nat) : (atStart : Bool) → List Char → List Char
  | _, [] => []
  | atStart, c :: cs =>
    let isEmpty := endsHere ((c :: cs).dropWhile (· == ' '))
    (if atStart && !isEmpty then List.replicate indent ' ' else []) ++
      c :: indentFrom indent (endsCommentLine c) cs

/-- Indents the lines of a text. Of line ends alone one is dropped. -/
def indentLines (indent : Nat) (text : String) : String :=
  let cs := text.toList
  if !cs.isEmpty && cs.all (· == '\n') then String.ofList (cs.drop 1)
  else String.ofList (indentFrom indent true cs)

def commentAfter (text : String) (indent : Nat) (comment : String) : String :=
  let comment := commentText comment
  if text.toList.getLast? == some '\n' then indentLines indent comment
  else if comment.toList.contains '\n' then "\n" ++ indentLines indent comment
  else if text.toList.getLast? == some ' ' then comment
  else " " ++ comment

/-! ## Scalars -/

structure WritePlace where
  indent : Nat
  /-- The column at which its first line starts, if that is known. -/
  start : Option Nat := none
  onKeyLine : Bool := false

/-- Line ends as they are written in a scalar whose lines are folded. -/
def unfoldLines (indent : Nat) : List Char → List Char
  | '\n' :: '\n' :: cs => '\n' :: unfoldLines indent ('\n' :: cs)
  | '\n' :: cs => '\n' :: '\n' :: List.replicate indent ' ' ++ unfoldLines indent cs
  | c :: cs => c :: unfoldLines indent cs
  | [] => []

/-- Breaks a text into lines, unless it is a key. -/
def WritePlace.wrap (place : WritePlace) (isQuoted : Bool) (text : List Char) : String :=
  if place.onKeyLine then String.ofList text
  else Yaml.wrap isQuoted place.indent place.start (String.ofList text)

def escapedChar (c : Char) : List Char :=
  match c with
  | '"' => ['\\', '"']
  | '\\' => ['\\', '\\']
  | '\n' => ['\\', 'n']
  | '\r' => ['\\', 'r']
  | '\t' => ['\\', 't']
  | c =>
    match c.toNat with
    | 0x00 => ['\\', '0']
    | 0x07 => ['\\', 'a']
    | 0x08 => ['\\', 'b']
    | 0x0B => ['\\', 'v']
    | 0x0C => ['\\', 'f']
    | 0x1B => ['\\', 'e']
    | n => if n < 0x20 then ['\\', 'x', Nat.digitChar (n / 16), Nat.digitChar (n % 16)] else [c]

/-- A character between double quotes when control characters are escaped by their codes. -/
def codeEscapedChar (c : Char) : List Char :=
  let n := c.toNat
  if n < 0x20 && !"\n\r\t\x08\x0c".toList.contains c then
    ['\\', 'u', '0', '0', Nat.digitChar (n / 16), Nat.digitChar (n % 16)]
  else escapedChar c

def codeEscapedText (cs : List Char) : String :=
  String.ofList ('"' :: cs.flatMap codeEscapedChar ++ ['"'])

/-- A text between double quotes is written over several lines from this width on. -/
def multiLineWidth : Nat := 40

/-- The characters of a text as they are written between double quotes. In a text over several lines
a line end is an empty line, and the blanks beside it are escaped. -/
def escapeText (severalLines : Bool) (indent : Nat) : (afterLineEnd : Bool) → List Char → List Char
  | _, [] => []
  | _, ' ' :: '\n' :: cs =>
    '\\' :: ' ' :: escapeText severalLines indent false ('\n' :: cs)
  | afterLineEnd, '\n' :: cs =>
    if !severalLines || cs.isEmpty then '\\' :: 'n' :: escapeText severalLines indent false cs
    else
      let start := if afterLineEnd then ['\n'] else ['\n', '\n']
      match cs with
      | '\n' :: _ :: _ => start ++ escapeText severalLines indent true cs
      | _ =>
        start ++ List.replicate indent ' ' ++ (if cs.head? == some ' ' then ['\\'] else []) ++
          escapeText severalLines indent false cs
  | _, c :: cs => escapedChar c ++ escapeText severalLines indent false cs

def doubleQuotedText (place : WritePlace) (cs : List Char) : String :=
  let severalLines := !place.onKeyLine && multiLineWidth ≤ width (codeEscapedText cs)
  place.wrap true ('"' :: escapeText severalLines place.indent false cs ++ ['"'])

def hasBlankAtLineEnd : List Char → Bool
  | a :: b :: cs => (isGap a && b == '\n') || (a == '\n' && isGap b) || hasBlankAtLineEnd (b :: cs)
  | _ => false

/-- A text between single quotes, if it can be written so. -/
def singleQuotedText (place : WritePlace) (cs : List Char) : String :=
  if (place.onKeyLine && cs.contains '\n') || hasBlankAtLineEnd cs then doubleQuotedText place cs
  else
    let doubled := cs.flatMap fun c => if c == '\'' then ['\'', '\''] else [c]
    place.wrap false ('\'' :: unfoldLines place.indent doubled ++ ['\''])

def quotedText (place : WritePlace) (cs : List Char) : String :=
  if cs.contains '"' && !cs.contains '\'' then singleQuotedText place cs
  else doubleQuotedText place cs

/-- Do two characters side by side keep a scalar from being plain? -/
def isBadPair (a b : Char) : Bool :=
  ((a == '\n' || a == ':') && isGap b) || (isGap a && b == '\n') ||
    ((isGap a || a == '\n') && b == '#')

/-- Is there something in a text that keeps it from being a plain scalar in a flow collection? -/
def isUnplain (cs : List Char) : Bool :=
  cs.any isFlowIndicator ||
    cs.head?.any ("\n\t ,[]\x7b\x7d#&*!|>'\"%@\x60".toList.contains ·) ||
    cs == ['?'] || cs == ['-'] ||
    ((cs.head? == some '?' || cs.head? == some '-') && (cs.drop 1).head?.any isGap) ||
    (cs.zip (cs.drop 1)).any (fun (a, b) => isBadPair a b) ||
    cs.getLast?.any ("\n\t :-".toList.contains ·)

/-- A text as a plain scalar, if it can be written and read back so. What another kind of scalar is
written like is quoted, unless it does not matter. -/
def plainText (place : WritePlace) (matters : Bool) (cs : List Char) : String :=
  let isOther := matters && !(plainValue (String.ofList cs) matches .text _)
  if (place.onKeyLine && cs.contains '\n') || isUnplain cs || isOther then quotedText place cs
  else place.wrap false (unfoldLines place.indent cs)

def isControl (c : Char) : Bool :=
  let n := c.toNat
  n ≤ 0x08 || (0x0B ≤ n && n ≤ 0x1F) || (0x7F ≤ n && n ≤ 0x9F)

/-- A text in a style, as far as possible. -/
def styledText (place : WritePlace) (matters : Bool) (style : ScalarStyle) (cs : List Char) :
    String :=
  if cs.any isControl then doubleQuotedText place cs
  else match style with
    | .plain => plainText place matters cs
    | .singleQuoted => singleQuotedText place cs
    | .doubleQuoted => doubleQuotedText place cs
    | .block => quotedText place cs

/-- A double. Zeros at the end of how it was written are kept, and so is an exponent. -/
def doubleText (source : String) (x : Binary64) : String :=
  match x with
  | .nan => ".nan"
  | .infinite negative => if negative then "-.inf" else ".inf"
  | .finite negative mantissa exponent =>
    let sign := if negative then "-" else ""
    let cs := source.toList
    if cs.any fun c => c == 'e' || c == 'E' then
      if mantissa = 0 then "0e+0"
      else
        let d := Decimal.shortest mantissa exponent
        let digits := Nat.toDigits 10 d.digits
        sign ++ String.ofList (NumberFormat.scientific digits (digits.length + d.exponent))
    else
      let text := if mantissa = 0 then sign ++ "0" else x.text
      let places := if cs.getLast? == some '0' then (cs.dropWhile (· != '.')).length - 1 else 0
      let fraction := (text.toList.dropWhile (· != '.')).drop 1
      if places = 0 || text.toList.contains 'e' then text
      else
        (if text.toList.contains '.' then text else text ++ ".") ++
          copies (places - fraction.length) '0'

/-- A text that its tag calls a number. A text that could be taken for one is quoted. -/
def misnamedNumber (text : String) : String :=
  match Binary64.ofText text with
  | .nan => ".nan"
  | .infinite negative => if negative then "-.inf" else ".inf"
  | .finite _ _ _ => codeEscapedText text.toList

/-- A text whose tag calls it something else, if there is a way of writing that. -/
def misnamedText? (tag text : String) : Option String :=
  if tag == standardTag "null" then some "null"
  else if tag == standardTag "bool" then some (if text.isEmpty then "false" else "true")
  else if tag == standardTag "int" || tag == standardTag "float" then some (misnamedNumber text)
  else none

def scalarText (place : WritePlace) (notes : Notes) (style : ScalarStyle) (source : String) :
    String :=
  match scalarValue notes.tag (style == .plain) source with
  | .int n =>
    let digits := fun radix => String.ofList (Nat.toDigits radix n.toNat)
    match source.toList with
    | '0' :: 'x' :: _ => "0x" ++ digits 16
    | '0' :: 'o' :: _ => "0o" ++ digits 8
    | _ => toString n
  | .double x => doubleText source x
  | .text text =>
    let matters := notes.tag != some (standardTag "map") && notes.tag != some (standardTag "seq")
    (notes.tag.bind (misnamedText? · text)).getD (styledText place matters style text.toList)
  | _ => source

/-! ## Collections -/

def isAnchorName (name : String) : Bool :=
  name.toList.all fun c => !(c.toNat ≤ 0x19 || isBlank c || isFlowIndicator c)

def propertyText? (handles : TagHandles) (notes : Notes) : Option String := do
  if notes.anchor.any fun name => !isAnchorName name then none
  let anchor := notes.anchor.toList.map fun name => "&" ++ name
  return String.intercalate " " (anchor ++ notes.tag.toList.map (tagText handles))

/-- A text after the properties of a node. -/
def afterProperties (properties text : String) : String :=
  if properties.isEmpty then text else properties ++ " " ++ text

def WritePlace.afterProperties (place : WritePlace) (properties : String) : WritePlace :=
  if properties.isEmpty then place
  else { place with start := some (place.start.getD 0 + width properties + 1) }

def WritePlace.afterNode (handles : TagHandles) (place : WritePlace) : Node → WritePlace
  | .alias .. => place
  | node => place.afterProperties ((propertyText? handles node.notes).getD "")

/-- An entry of a collection as it is written. -/
structure EntryText where
  text : String
  blankBefore : Bool
  commentBefore : String
  comment : String
  /-- Does it make the collection run over several lines? -/
  breaks : Bool

namespace EntryText

def ofItem (item : Node) (text : String) : EntryText :=
  let notes := item.notes
  { text, blankBefore := notes.blankBefore, commentBefore := notes.commentBefore
    comment := notes.comment, breaks := false }

def ofPair (pair : Pair) (text : String) : EntryText :=
  let key := pair.key.notes
  let value := pair.value?.map Node.notes
  { text, blankBefore := key.blankBefore, commentBefore := key.commentBefore
    comment := (value.map (·.comment)).getD key.comment
    breaks := !key.comment.isEmpty || value.any (!·.commentBefore.isEmpty) }

/-- Is the collection written over several lines because of the entry? -/
def isLong (entry : EntryText) : Bool :=
  entry.breaks || entry.blankBefore || !entry.commentBefore.isEmpty || !entry.comment.isEmpty ||
    entry.text.toList.contains '\n'

/-- The lines of an entry of a collection whose brackets are indented by `indent`. -/
def lines (entry : EntryText) (indent itemIndent : Nat) (isLast : Bool) : List String :=
  let before := indentLines indent (commentText entry.commentBefore)
  let text := if isLast then entry.text else entry.text ++ ","
  let after := if entry.comment.isEmpty then "" else commentAfter text itemIndent entry.comment
  (if entry.blankBefore then [""] else []) ++
    (if entry.commentBefore.isEmpty then []
      else [String.ofList (before.toList.dropWhile isBlank)]) ++ [text ++ after]

end EntryText

def entryLines (indent itemIndent : Nat) : List EntryText → List String
  | [] => []
  | [entry] => entry.lines indent itemIndent true
  | entry :: rest => entry.lines indent itemIndent false ++ entryLines indent itemIndent rest

def bracketed (opening closing : String) (indent itemIndent : Nat) (entries : List EntryText) :
    String :=
  let lines := entryLines indent itemIndent entries
  let lineLength := lines.foldl (fun n line => n + width line + 2) 2
  if lines.isEmpty then opening ++ closing
  else if entries.any (·.isLong) || lineWidth < lineLength then
    let indented := lines.map fun line =>
      if line.isEmpty then "\n" else "\n" ++ blanks (indent + 2) ++ line
    opening ++ String.join indented ++ "\n" ++ blanks indent ++ closing
  else opening ++ " " ++ String.intercalate " " lines ++ " " ++ closing

def needsMark : Node → Bool
  | .scalar _ style _ => style == .block
  | _ => true

def bareText (isMarked : Bool) (key : String) : String :=
  if key.isEmpty then "?" else if isMarked then "? " ++ key else key

/-- A key with its comment and its colon, in a mapping whose entries are indented by `indent`. -/
def keyText (isMarked : Bool) (indent : Nat) (comment key : String) : String :=
  let after := fun text =>
    if comment.isEmpty then text else text ++ commentAfter text (indent + 2) comment
  if isMarked then "? " ++ after key ++ "\n" ++ blanks indent ++ ":" else after (key ++ ":")

/-- Does the first line of a text hold the properties of a node and nothing else? -/
def hasPropertyLine (text : String) : Bool :=
  let line := text.toList.takeWhile (· != '\n')
  match line, line.dropWhile (· != ' ') with
  | '&' :: _, ' ' :: '!' :: cs => !cs.contains ' '
  | '&' :: _, rest => rest.isEmpty
  | '!' :: _, rest => rest.isEmpty
  | _, _ => false

/-- What separates a value from its colon, the value being indented by `indent`. -/
def valueGap (isMarked : Bool) (indent : Nat) (keyComment : String) (value : Node) (text : String) :
    String :=
  let notes := value.notes
  if !keyComment.isEmpty || notes.blankBefore || !notes.commentBefore.isEmpty then
    (if notes.blankBefore then "\n" else "") ++
      (if notes.commentBefore.isEmpty then ""
        else "\n" ++ indentLines indent (commentText notes.commentBefore)) ++
      "\n" ++ blanks indent
  else if !isMarked && value.isCollection then
    if text.toList.contains '\n' && !hasPropertyLine text then "\n" ++ blanks indent else " "
  else if text.isEmpty || text.toList.head? == some '\n' then ""
  else " "

/-- A collection whose tag is that of a scalar: what it would be as such a scalar. -/
def misnamedCollection? (tag : String) : Option String :=
  if tag == standardTag "null" then some "null"
  else if tag == standardTag "bool" then some "false"
  else if tag == standardTag "int" || tag == standardTag "float" then some ".nan"
  else if tag == standardTag "str" then some "undefined"
  else none

/-- A collection after its properties, which has a line of its own if it is written as a scalar. -/
def taggedCollection (place : WritePlace) (properties : String) (notes : Notes)
    (text : Option String) : Option String :=
  match notes.tag.bind misnamedCollection? with
  | some scalar => some (properties ++ "\n" ++ blanks place.indent ++ scalar)
  | none => text.map (afterProperties properties)

mutual

def nodeText (handles : TagHandles) (place : WritePlace) : Node → Option String
  | .alias _ name _ => if isAnchorName name then some ("*" ++ name) else none
  | .scalar notes style source => do
    let properties ← propertyText? handles notes
    let place := place.afterProperties properties
    return afterProperties properties (scalarText place notes style source)
  | .seq notes items => do
    let properties ← propertyText? handles notes
    let place := place.afterProperties properties
    let itemIndent := place.indent + 4
    let entries := itemTexts handles { indent := itemIndent, start := place.start } items
    taggedCollection place properties notes
      (entries.map (bracketed "[" "]" place.indent itemIndent))
  | .map notes pairs => do
    let properties ← propertyText? handles notes
    let place := place.afterProperties properties
    let itemIndent := place.indent + 2
    let allBare := pairs.all (·.value?.isNone)
    let entries := pairTexts handles { indent := itemIndent, start := place.start } allBare pairs
    taggedCollection place properties notes
      (entries.map (bracketed "\x7b" "\x7d" place.indent itemIndent))

def itemTexts (handles : TagHandles) (place : WritePlace) : List Node → Option (List EntryText)
  | [] => some []
  | item :: rest => do
    let text ← nodeText handles place item
    return .ofItem item text :: (← itemTexts handles (place.afterNode handles item) rest)

def pairTexts (handles : TagHandles) (place : WritePlace) (allBare : Bool) :
    List Pair → Option (List EntryText)
  | [] => some []
  | pair :: rest => do
    let text ← pairText handles place allBare pair
    return .ofPair pair text :: (← pairTexts handles place allBare rest)

def pairText (handles : TagHandles) (place : WritePlace) (allBare : Bool) : Pair → Option String
  | .bare key => do
    let isMarked := needsMark key
    let keyPlace :=
      { place with indent := place.indent + 2, onKeyLine := !isMarked && !allBare }
    return bareText isMarked (← nodeText handles keyPlace key)
  | .full key value => do
    let isMarked := needsMark key
    let indent := place.indent + 2
    let keyPlace := { place with indent, onKeyLine := !isMarked }
    let comment := key.notes.comment
    let before := keyText isMarked place.indent comment (← nodeText handles keyPlace key)
    let isBeside := !isMarked && comment.isEmpty && value matches .scalar ..
    let start := if isBeside then some (width before + 1)
      else (keyPlace.afterNode handles key).start
    let text ← nodeText handles { indent, start } value
    return before ++ valueGap isMarked indent comment value text ++ text

end

/-- A key that is an alias or a collection, without the anchor and the tag of the collection. -/
def flowText? (handles : TagHandles) (key : Node) : Option String :=
  nodeText handles { indent := 0 } (key.mapNotes fun _ => {})

end NativeBindings.Yaml
