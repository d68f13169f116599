import NativeBindings.Text
import NativeBindings.Yaml.Lexeme

/-!
# Cutting a YAML text into lexemes

A scanner goes through a text once. What a character means depends on whether it stands in a flow
collection, at the start of a line, or elsewhere, which is the scanner's mode. The lines of a scalar
belong to it as long as they are indented far enough; the scanner keeps track of how far that is.
Whether the lexemes make sense together is not its business.
-/
namespace NativeBindings.Yaml

def startsFlowIndicator (cs : List Char) : Bool := cs.head?.any isFlowIndicator

def endsName (c : Char) : Bool := isFlowIndicator c || isWhite c

/-- The characters of a tag that stand for themselves. -/
def isTagChar (c : Char) : Bool := c.isAlphanum || "-#;/?:@&=+$_.!~*'()".toList.contains c

/-- Does a plain scalar end at a blank or a line end that is followed by this? -/
def endsPlain (inFlow : Bool) (cs : List Char) : Bool :=
  cs.head? == some '#' || (inFlow && startsFlowIndicator cs)

/-- The number of characters of the plain scalar that starts here, when `seen` characters are
already behind and the scalar reaches at least to `length`. A colon ends it if it is a mark, and so
does a comment. Blanks and line ends belong to it only if it goes on after them. -/
def plainLength (inFlow : Bool) (floor : Nat) : (seen length : Nat) → List Char → Nat
  | _, length, [] => length
  | seen, length, '\r' :: '\n' :: cs =>
    if endsPlain inFlow cs || !continues floor cs then length
    else plainLength inFlow floor (seen + 2) length cs
  | seen, length, c :: cs =>
    if c == '\n' then
      if endsPlain inFlow cs || !continues floor cs then length
      else plainLength inFlow floor (seen + 1) length cs
    else if isGap c then
      if endsPlain inFlow cs then length else plainLength inFlow floor (seen + 1) length cs
    else if c == '\r' then
      if endsPlain inFlow cs then seen + 1
      else plainLength inFlow floor (seen + 1) (seen + 1) cs
    else if c == ':' && (endsMark cs || (inFlow && startsFlowIndicator cs)) then length
    else if inFlow && isFlowIndicator c then length
    else plainLength inFlow floor (seen + 1) (seen + 1) cs

/-- The number of characters of a tag after its first: anything up to a closing angle bracket, or a
row of tag characters and escapes. -/
def tagLength : List Char → Nat
  | '<' :: cs =>
    let name := cs.takeWhile fun c => c != '>' && !isWhite c
    1 + name.length + (if (cs.drop name.length).head? == some '>' then 1 else 0)
  | cs => go cs
where
  go : List Char → Nat
    | '%' :: a :: b :: cs =>
      if Text.isDigitOf 16 a && Text.isDigitOf 16 b then 3 + go cs else 0
    | c :: cs => if isTagChar c then 1 + go cs else 0
    | [] => 0

/-- The number of characters up to the quote that closes a scalar, if there is one. Between single
quotes two of them stand for one; between double quotes a backslash escapes what follows. -/
def quotedLength? (isDouble : Bool) : List Char → Option Nat
  | [] => none
  | c :: c' :: cs =>
    if isDouble && c == '\\' then (quotedLength? isDouble cs).map (· + 2)
    else if !isDouble && c == '\'' && c' == '\'' then (quotedLength? isDouble cs).map (· + 2)
    else if c == (if isDouble then '"' else '\'') then some 0
    else (quotedLength? isDouble (c' :: cs)).map (· + 1)
  | [c] => if c == (if isDouble then '"' else '\'') then some 0 else none

/-- The first of `length` characters that ends a line after which a scalar does not go on. -/
def brokenAt? (floor : Nat) : (length : Nat) → List Char → Option Nat
  | 0, _ => none
  | _, [] => none
  | length + 1, c :: cs =>
    if c == '\n' && !continues floor cs then some 0
    else (brokenAt? floor length cs).map (· + 1)

/-- The number of characters of the quoted scalar that starts here. A scalar that is not closed
takes all the rest; one whose lines are not indented ends before the line that is not. -/
def quotedWidth (isDouble : Bool) (floor : Nat) (cs : List Char) : Nat :=
  let inner := cs.drop 1
  match quotedLength? isDouble inner with
  | none => cs.length
  | some length => match brokenAt? floor length inner with
    | none => length + 2
    | some broken => 1 + (dropReturn (inner.take broken)).length

/-- The number of characters of a directive: up to a comment, without the blanks at the end. -/
def directiveLength (line : List Char) : Nat :=
  (trimEndGaps (line.take (go 0 line))).length
where
  go (seen : Nat) : List Char → Nat
    | [] => seen
    | c :: cs => if isGap c && cs.head? == some '#' then seen else go (seen + 1) cs

/-- What the scanner expects. -/
inductive ScanMode where
  | stream
  /-- The start of a line outside of flow collections. -/
  | lineStart
  /-- A mark at the start of a line, or content. -/
  | marks
  | content
  | flow
  deriving DecidableEq, Repr

structure Scanner where
  mode : ScanMode := .stream
  rest : List Char
  /-- The column at which the content of the line starts, its first marks taken off. -/
  indent : Nat := 0
  /-- How far the next lines of a scalar or a flow collection have to be indented. -/
  floor : Nat := 0
  depth : Nat := 0
  /-- What came last may be a flow key, after which a colon needs no blank. -/
  afterKey : Bool := false
  /-- The lexemes so far, the last one first. -/
  lexemes : List Lexeme := []

namespace Scanner

/-- Cuts off a lexeme, which may be empty. -/
def cut (s : Scanner) (kind : LexemeKind) (length : Nat) : Scanner :=
  { s with
    rest := s.rest.drop length
    lexemes := { kind, text := String.ofList (s.rest.take length) } :: s.lexemes }

def pass (s : Scanner) (kind : LexemeKind) (length : Nat) : Scanner :=
  if length = 0 then s else s.cut kind length

def passGaps (s : Scanner) : Scanner := s.pass .space (s.rest.takeWhile isGap).length

def passSpaces (s : Scanner) : Scanner := s.pass .space (spaces s.rest)

def passLineEnd (s : Scanner) : Scanner :=
  match s.rest with
  | '\n' :: _ => s.cut .newline 1
  | '\r' :: '\n' :: _ => s.cut .newline 2
  | _ => s

def passComment (s : Scanner) : Scanner := s.pass .comment (restOfLine s.rest).length

def markKind? : Char → Option LexemeKind
  | '-' => some .item
  | '?' => some .key
  | ':' => some .value
  | _ => none

/-- Passes tags, anchors and marks, and the blanks after them. The number bounds how many. -/
def passIndicators : Nat → Scanner → Scanner
  | 0, s => s
  | fuel + 1, s =>
    match s.rest with
    | '!' :: cs => passIndicators fuel (s.cut .tag (1 + tagLength cs)).passGaps
    | '&' :: cs =>
      passIndicators fuel (s.cut .anchor (1 + (cs.takeWhile (!endsName ·)).length)).passGaps
    | c :: cs =>
      match markKind? c with
      | none => s
      | some kind =>
        let inFlow := s.depth != 0
        if endsMark cs || (inFlow && startsFlowIndicator cs) then
          let s := if inFlow then { s with afterKey := false } else { s with floor := s.indent + 1 }
          passIndicators fuel (s.cut kind 1).passGaps
        else s
    | [] => s

def passAlias (s : Scanner) : Scanner :=
  s.cut .alias (s.rest.takeWhile (!endsName ·)).length

/-- Passes a plain scalar, which in a flow collection may be empty. -/
def passPlain (s : Scanner) : Scanner :=
  s.cut .plain (plainLength (s.depth != 0) s.floor 0 0 s.rest)

def passQuoted (s : Scanner) (isDouble : Bool) : Scanner :=
  s.cut (if isDouble then .doubleQuoted else .singleQuoted) (quotedWidth isDouble s.floor s.rest)

def isBlankEnded (line : List Char) : Bool :=
  let tail := line.drop (spaces line)
  tail == ['\n'] || tail == ['\r', '\n']

/-- A line of spaces that are no more than `limit`, with or without a line end. -/
def isBlankUpTo (limit : Nat) (line : List Char) : Bool :=
  let content := dropReturn (line.filter (· != '\n'))
  content.all (· == ' ') && content.length ≤ limit

/-- The number of lines that a block scalar keeps, if those at its end are dropped that are blank
and indented no further than `limit`. One line stays. The lines are in reverse. -/
def keptLines (limit : Nat) : List (List Char) → Nat
  | last :: before :: rest =>
    if isBlankUpTo limit last then keptLines limit (before :: rest) else rest.length + 2
  | lines => lines.length

def isHeaderSign (c : Char) : Bool := c == '+' || c == '-' || ('1' ≤ c && c ≤ '9')

/-- Passes the lines of a block scalar with a header. The first line with content says how far the
others are indented, unless the header does. Blank lines at the end do not belong to the scalar,
unless the header keeps them; white space that starts with a tab does, for there it is an error. -/
def passBlock (s : Scanner) (header : List Char) : Scanner :=
  let signs := (header.drop 1).takeWhile isHeaderSign
  let given := (signs.filter Char.isDigit).getLast?
  let lines := linesWithEnds s.rest
  let leading := lines.takeWhile isBlankEnded
  let following := lines.drop leading.length
  let indent := (following.head?.map spaces).getD 0
  let floor := if indent < s.floor then s.floor else match given with
    | none => indent
    | some digit => (digit.toNat - '1'.toNat) + (if s.floor = 0 then 1 else s.floor)
  let belongs := fun line => s.floor ≤ indent && continues floor line
  let lines := leading ++ following.takeWhile belongs
  let after := (following.dropWhile belongs).flatten
  let white := (after.takeWhile isWhite).length
  let lines :=
    if (after.drop (spaces after)).head? == some '\t' then lines ++ [after.take white]
    else if signs.contains '+' then lines
    else lines.take (keptLines indent lines.reverse)
  { s.cut .plain lines.flatten.length with floor, mode := .lineStart }

def stream (s : Scanner) : Scanner :=
  let s := if s.rest.head? == some '\uFEFF' then s.cut .byteOrderMark 1 else s
  if s.rest.head? == some '%' then
    (s.cut .directive (directiveLength (restOfLine s.rest))).passGaps.passComment
  else
    let after := trimStartGaps s.rest
    if after.isEmpty || after.head? == some '#' || startsLineEnd after then
      s.passGaps.passComment.passLineEnd
    else { s.cut .documentMode 0 with mode := .lineStart }

/-- A step at the start of a line. What is indented less than the scalars before sets how far the
next ones have to be, unless it is a mark. -/
def lineStart (s : Scanner) : Scanner :=
  if isDocumentMark s.rest then
    let starts := s.rest.head? == some '-'
    { s.cut (if starts then .documentStart else .documentEnd) 3 with
      indent := 0, floor := 0, mode := if starts then .content else .stream }
  else
    let indent := spaces s.rest
    let s := s.passSpaces
    let isMark := (s.rest.head?.all fun c => (Text.units c).length = 1) && endsMark (s.rest.drop 1)
    let floor := if indent < s.floor && !isMark then indent else s.floor
    { s with indent, floor, mode := .marks }

def marks (s : Scanner) : Scanner :=
  match s.rest with
  | c :: cs =>
    match markKind? c with
    | some kind =>
      if endsMark cs then
        { (s.cut kind 1).passGaps with
          floor := s.indent + 1
          indent := s.indent + 1 + (cs.takeWhile isGap).length }
      else { s with mode := .content }
    | none => { s with mode := .content }
  | [] => { s with mode := .content }

/-- A step outside of flow collections. The header of a block scalar may be followed by a comment
only. -/
def content (fuel : Nat) (s : Scanner) : Option Scanner :=
  let s := passIndicators fuel s.passGaps
  match s.rest with
  | '\x7b' :: _ =>
    some { s.cut (.opening true) 1 with afterKey := false, depth := 1, mode := .flow }
  | '[' :: _ => some { s.cut (.opening false) 1 with afterKey := false, depth := 1, mode := .flow }
  | '\x7d' :: _ => some (s.cut (.closing true) 1)
  | ']' :: _ => some (s.cut (.closing false) 1)
  | '*' :: _ => some s.passAlias
  | '"' :: _ => some (s.passQuoted true)
  | '\'' :: _ => some (s.passQuoted false)
  | c :: _ =>
    if c == '#' || startsLineEnd s.rest then
      some { s.passComment.passLineEnd with mode := .lineStart }
    else if c == '|' || c == '>' then
      let header := s.rest.takeWhile fun c => !isWhite c && c != '#'
      let s := (s.cut .blockHeader header.length).passGaps
      if s.rest.isEmpty || s.rest.head? == some '#' || startsLineEnd s.rest then
        some (s.passComment.passLineEnd.passBlock header)
      else none
    else some s.passPlain
  | [] => some { s with mode := .lineStart }

/-- Passes line ends and blanks. With them comes the indentation of the last line, if there is a
line end. The number bounds the line ends. -/
def passLines : Nat → Option Nat → Scanner → Option Nat × Scanner
  | 0, indent, s => (indent, s)
  | fuel + 1, indent, s =>
    let s := s.passGaps
    if startsLineEnd s.rest then
      let s := s.passLineEnd
      let indent := spaces s.rest
      passLines fuel (some indent) { s.passSpaces with indent }
    else (indent, s)

/-- Is the line that starts here, indented by `indent`, too far left for the flow collection that is
open? The bracket that closes the outermost one may stand one column before the others. -/
def leavesFlow (s : Scanner) (indent : Nat) : Bool :=
  (indent < s.floor && s.rest.head? != some '#' || indent = 0 && isDocumentMark s.rest) &&
    !(indent + 1 = s.floor && s.depth = 1 &&
      (s.rest.head? == some '\x7d' || s.rest.head? == some ']'))

def passCommas : Nat → Scanner → Scanner
  | 0, s => s
  | fuel + 1, s =>
    if s.rest.head? == some ',' then
      passCommas fuel { (s.cut .comma 1).passGaps with afterKey := false }
    else s

def close (s : Scanner) (isMap : Bool) : Scanner :=
  { s.cut (.closing isMap) 1 with
    afterKey := true, depth := s.depth - 1, mode := if s.depth = 1 then .content else .flow }

def flow (fuel : Nat) (s : Scanner) : Scanner :=
  let (indent?, s) := passLines fuel none s
  if indent?.any s.leavesFlow then
    { s.cut .flowLeft 0 with depth := 0, mode := .lineStart }
  else
    let s := passIndicators fuel (passCommas fuel s)
    match s.rest with
    | '\x7b' :: _ => { s.cut (.opening true) 1 with depth := s.depth + 1, afterKey := false }
    | '[' :: _ => { s.cut (.opening false) 1 with depth := s.depth + 1, afterKey := false }
    | '\x7d' :: _ => s.close true
    | ']' :: _ => s.close false
    | '*' :: _ => s.passAlias
    | '"' :: _ => { s with afterKey := true }.passQuoted true
    | '\'' :: _ => { s with afterKey := true }.passQuoted false
    | '#' :: _ => s.passComment
    | c :: cs =>
      if startsLineEnd s.rest then s
      else if c == ':' && (s.afterKey || endsMark cs || cs.head? == some ',') then
        ({ s with afterKey := false }.cut .value 1).passGaps
      else { s with afterKey := false }.passPlain
    | [] => s

def step (fuel : Nat) (s : Scanner) : Option Scanner :=
  match s.mode with
  | .stream => some s.stream
  | .lineStart => some s.lineStart
  | .marks => some s.marks
  | .content => s.content fuel
  | .flow => some (s.flow fuel)

/-- Steps until nothing is left. -/
def run : Nat → Scanner → Option Scanner
  | 0, _ => none
  | fuel + 1, s => if s.rest.isEmpty then some s else s.step fuel >>= run fuel

end Scanner

/-- The lexemes of a text, unless something stands after the header of a block scalar. At most four
steps in a row pass no character: out of a flow collection, to the start of a line, to its marks and
to its content. -/
def scan (text : String) : Option (List Lexeme) :=
  let cs := text.toList
  (Scanner.run (6 * cs.length + 6) { rest := cs }).map (·.lexemes.reverse)

end NativeBindings.Yaml
