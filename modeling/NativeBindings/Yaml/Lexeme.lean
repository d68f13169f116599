import NativeBindings.Text

/-!
# Lines and lexemes

What a YAML text is made of before its structure is looked at.
-/
namespace NativeBindings.Yaml

/-!
## Lines

Indentation is made of spaces, a scalar that runs over several lines is folded, and a line that
starts a scalar says how far the next ones have to be indented. A line ends with a line feed, or
with a carriage return and a line feed; a carriage return elsewhere is content.
-/

def isGap (c : Char) : Bool := c == ' ' || c == '\t'

def isWhite (c : Char) : Bool := isGap c || c == '\n' || c == '\r'

/-- The characters with a meaning of their own in flow collections. -/
def isFlowIndicator (c : Char) : Bool := ",[]\x7b\x7d".toList.contains c

def spaces (cs : List Char) : Nat := (cs.takeWhile (· == ' ')).length

/-- Does a blank, a line end or nothing at all stand here? Marks have to be followed by one. -/
def endsMark : List Char → Bool
  | [] => true
  | c :: _ => isWhite c

def startsLineEnd : List Char → Bool
  | '\n' :: _ => true
  | '\r' :: '\n' :: _ => true
  | _ => false

def isDocumentMark : List Char → Bool
  | '-' :: '-' :: '-' :: cs => endsMark cs
  | '.' :: '.' :: '.' :: cs => endsMark cs
  | _ => false

/-- Does the line that starts here belong to a scalar whose lines are indented by `floor`? Lines
without content always do. At the margin, every line does that is not a document's mark. -/
def continues (floor : Nat) (cs : List Char) : Bool :=
  if floor = 0 then !isDocumentMark cs
  else floor ≤ spaces cs || startsLineEnd (cs.drop (spaces cs))

def dropReturn (line : List Char) : List Char :=
  if line.getLast? == some '\r' then line.dropLast else line

def restOfLine : List Char → List Char
  | [] => []
  | '\n' :: _ => []
  | '\r' :: '\n' :: _ => []
  | c :: cs => c :: restOfLine cs

def trimStartGaps (cs : List Char) : List Char := cs.dropWhile isGap

def trimEndGaps (cs : List Char) : List Char := (cs.reverse.dropWhile isGap).reverse

/-- The lines of a text, each with its line end; the last one may lack it. -/
def linesWithEnds (cs : List Char) : List (List Char) :=
  match cs.splitOn '\n' with
  | [] => []
  | first :: rest => close first rest
where
  close (line : List Char) : List (List Char) → List (List Char)
    | [] => if line.isEmpty then [] else [line]
    | next :: rest => (line ++ ['\n']) :: close next rest

/-- Folds the lines after the first: a single line end becomes a space, and of several the first is
dropped. `separator` is what the line ends so far come to. -/
def foldRest (separator : Char) : List (List Char) → List Char
  | [] => []
  | [last] => separator :: trimStartGaps last
  | line :: rest =>
    match trimStartGaps (trimEndGaps (dropReturn line)) with
    | [] => if separator == '\n' then '\n' :: foldRest '\n' rest else foldRest '\n' rest
    | content => separator :: content ++ foldRest ' ' rest

/-- Folds the lines of a text. Blanks at the ends of the text are kept. -/
def foldLines (cs : List Char) : List Char :=
  match cs.splitOn '\n' with
  | [] => []
  | [line] => line
  | first :: rest => trimEndGaps (dropReturn first) ++ foldRest ' ' rest

/-!
## Lexemes

The pieces that a text is cut into. Nothing is left out: blanks, line ends and comments are lexemes
too, because they decide what belongs together. A lexeme knows its place in the text and the
indentation of the line before it.
-/

/-- What a lexeme is. -/
inductive LexemeKind where
  | byteOrderMark
  | directive
  /-- The point where a document starts; it has no text. -/
  | documentMode
  | documentStart
  | documentEnd
  /-- The point where a flow collection is left before it is closed; it has no text. -/
  | flowLeft
  | space
  | newline
  | comment
  | comma
  | item
  | key
  | value
  | opening (isMap : Bool)
  | closing (isMap : Bool)
  | anchor
  | tag
  | alias
  /-- A scalar without quotes, or the lines of a block scalar. -/
  | plain
  | singleQuoted
  | doubleQuoted
  /-- What stands before a block scalar and says how to read it. -/
  | blockHeader
  deriving DecidableEq, Repr, Inhabited

namespace LexemeKind

def isTrivia : LexemeKind → Bool
  | space => true
  | newline => true
  | comment => true
  | _ => false

/-- A node that is a single lexeme. -/
def isFlowScalar : LexemeKind → Bool
  | .alias => true
  | plain => true
  | singleQuoted => true
  | doubleQuoted => true
  | _ => false

/-- Does the lexeme stand at the beginning of a part, so that what follows on its line belongs to
what comes next? -/
def startsPart : LexemeKind → Bool
  | documentStart => true
  | key => true
  | value => true
  | item => true
  | newline => true
  | _ => false

end LexemeKind

structure Lexeme where
  kind : LexemeKind
  text : String
  /-- Where it starts, in code units. -/
  offset : Nat := 0
  /-- The indentation of its line, up to it. -/
  indent : Nat := 0
  deriving DecidableEq, Repr, Inhabited

namespace Lexeme

def width (t : Lexeme) : Nat := Text.width t.text

def stop (t : Lexeme) : Nat := t.offset + t.width

def body (t : Lexeme) : String := String.ofList (t.text.toList.drop 1)

end Lexeme

def hasKind (kind : LexemeKind) (ts : List Lexeme) : Bool := ts.any (·.kind == kind)

end NativeBindings.Yaml
