import NativeBindings.Yaml.Lexeme

/-!
# Block scalars

The text that the lines after a header stand for. A header says whether lines are folded, what
happens to the line ends at the end, and possibly how far the lines are indented; if it does not,
the first line with content says so.
-/
namespace NativeBindings.Yaml

/-- What happens to the line ends at the end: one is kept, none, or all. -/
inductive Chomping where
  | clip | strip | keep
  deriving DecidableEq, Repr, Inhabited

/-- The header of a block scalar. Without an explicit indentation the number is zero. -/
structure BlockHeader where
  folded : Bool
  chomping : Chomping := .clip
  indentation : Nat := 0
  deriving DecidableEq, Repr, Inhabited

namespace BlockHeader

/-- Reads what stands after the first character of a header: a sign and a digit at most, in either
order. -/
def extend? (header : BlockHeader) : List Char → Option BlockHeader
  | [] => some header
  | c :: cs =>
    if c == '-' && header.chomping == .clip then extend? { header with chomping := .strip } cs
    else if c == '+' && header.chomping == .clip then extend? { header with chomping := .keep } cs
    else if '1' ≤ c ∧ c ≤ '9' ∧ header.indentation = 0 then
      extend? { header with indentation := c.toNat - '0'.toNat } cs
    else none

def ofChars? : List Char → Option BlockHeader
  | [] => none
  | c :: cs => extend? { folded := c == '>' } cs

end BlockHeader

abbrev IndentedLine := Nat × List Char

/-- The lines of a block scalar. After the last line end stands one more line, an empty one. -/
def indentedLines (cs : List Char) : List IndentedLine :=
  if cs.isEmpty then []
  else (cs.splitOn '\n').map fun line => (spaces line, dropReturn (line.drop (spaces line)))

def extraSpaces (indentation : Nat) (line : IndentedLine) : List Char :=
  List.replicate (line.1 - indentation) ' '

/-- The indentation of a block scalar, found at its first line with content. Empty lines before it
may not be indented further, unless the indentation is given. -/
def indentation? (given : Bool) (atRoot : Bool) : Nat → List IndentedLine → Option Nat
  | indentation, [] => some indentation
  | indentation, (n, content) :: rest =>
    if content.isEmpty then
      indentation? given atRoot (if given then indentation else max indentation n) rest
    else if n < indentation then none
    else
      let indentation := if given then indentation else n
      if indentation = 0 && !atRoot then none else some indentation

inductive FoldState where
  | start
  /-- After a line that can be joined with. -/
  | joined
  /-- After line ends that count; the flag says whether a further indented line came last. -/
  | broken (afterIndented : Bool)

/-- Folds lines: lines with the same indentation are joined by a space, further indented ones keep
their line ends. -/
def foldBlock (indentation : Nat) : FoldState → List IndentedLine → List Char
  | _, [] => []
  | state, (n, content) :: rest =>
    if indentation < n || content.head? == some '\t' then
      let separator := match state with
        | .start => []
        | .joined => ['\n']
        | .broken true => ['\n']
        | .broken false => ['\n', '\n']
      separator ++ extraSpaces indentation (n, content) ++ content ++
        foldBlock indentation (.broken true) rest
    else if content.isEmpty then
      match state with
      | .broken afterIndented => '\n' :: foldBlock indentation (.broken afterIndented) rest
      | _ => foldBlock indentation (.broken false) rest
    else
      let separator := match state with
        | .start => []
        | .joined => [' ']
        | .broken _ => ['\n']
      separator ++ content ++ foldBlock indentation .joined rest

def literalBlock (indentation : Nat) (lines : List IndentedLine) : List Char :=
  List.intercalate ['\n'] (lines.map fun line => extraSpaces indentation line ++ line.2)

/-- The text of a block scalar in a collection at a column, or none if its lines are indented
badly. -/
def blockText? (header : BlockHeader) (column : Nat) (atRoot : Bool) (cs : List Char) :
    Option (List Char) := do
  let lines := indentedLines cs
  let isEmpty := fun line : IndentedLine => line.2.isEmpty
  if lines.all isEmpty then
    return if header.chomping == .keep && !lines.isEmpty then
      List.replicate (max 1 (lines.length - 1)) '\n' else []
  let indentation ←
    indentation? (header.indentation != 0) atRoot (column + header.indentation) lines
  let isEnd := fun line : IndentedLine => line.2.isEmpty && line.1 ≤ indentation
  let ending := (lines.reverse.takeWhile isEnd).reverse
  let body := lines.take (lines.length - ending.length)
  let leading := body.takeWhile isEmpty
  let content := body.dropWhile isEmpty
  if content.any fun line => !line.2.isEmpty && line.1 < indentation then none
  let text := leading.flatMap (fun line => extraSpaces indentation line ++ ['\n']) ++
    if header.folded then foldBlock indentation .start content else literalBlock indentation content
  return match header.chomping with
    | .strip => text
    | .clip => text ++ ['\n']
    | .keep =>
      let text := text ++ List.replicate ending.length '\n'
      if text.getLast? == some '\n' then text else text ++ ['\n']

end NativeBindings.Yaml
