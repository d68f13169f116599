/-!
# Texts

What the other modules need of characters and strings beyond core: blanks, identifiers, numerals,
UTF-16 code units, and the buffer that a generated file is written to.
-/
namespace NativeBindings.Text

/-!
## Blank characters

The characters that may stand around a text without belonging to it: the ASCII ones from tab to
carriage return and the space, the no-break space, the byte order mark, the line and paragraph
separators and every other Unicode space separator. U+0085, U+180E and U+200B are not blank.
-/

def isBlank (c : Char) : Bool :=
  let n := c.toNat
  (0x09 ≤ n && n ≤ 0x0D) || n == 0x20 || n == 0xA0 || n == 0x1680 ||
    (0x2000 ≤ n && n ≤ 0x200A) || n == 0x2028 || n == 0x2029 || n == 0x202F ||
    n == 0x205F || n == 0x3000 || n == 0xFEFF

def trimEndChars (cs : List Char) : List Char := (cs.reverse.dropWhile isBlank).reverse

/-- Drops the blanks at both ends. -/
def trimChars (cs : List Char) : List Char := trimEndChars (cs.dropWhile isBlank)

/-- Drops the blanks at the end of a string. -/
def trimEnd (s : String) : String := String.ofList (trimEndChars s.toList)

def isBlankString (s : String) : Bool := s.toList.all isBlank

/-!
## Identifiers

ASCII identifiers (`IDENTIFIER_PATTERN`), and the dotted module paths made of them
(`PYTHON_MODULE_PATTERN`).
-/

def isIdentifierStart (c : Char) : Bool := c.isAlpha || c == '_'

def isIdentifierPart (c : Char) : Bool := c.isAlphanum || c == '_'

/-- A letter or underscore, then letters, digits and underscores. -/
def isIdentifierChars : List Char → Bool
  | [] => false
  | c :: cs => isIdentifierStart c && cs.all isIdentifierPart

def isIdentifier (s : String) : Bool := isIdentifierChars s.toList

/-- Any number of dots, then identifiers separated by single dots. -/
def isModulePath (s : String) : Bool :=
  ((s.toList.dropWhile (· == '.')).splitOn '.').all isIdentifierChars

/-!
## Numerals

Natural numbers written with the digits of a radix up to sixteen. Reading folds the digits from
the left; only ASCII digits count.
-/

/-- The value of a digit, letters counting from ten in either case. -/
def digitValue? (c : Char) : Option Nat :=
  if '0' ≤ c ∧ c ≤ '9' then some (c.toNat - '0'.toNat)
  else if 'a' ≤ c ∧ c ≤ 'f' then some (c.toNat - 'a'.toNat + 10)
  else if 'A' ≤ c ∧ c ≤ 'F' then some (c.toNat - 'A'.toNat + 10)
  else none

def isDigitOf (radix : Nat) (c : Char) : Bool := (digitValue? c).any (· < radix)

/-- The value of a row of digits, the first being the most significant. -/
def digitsValue (radix : Nat) (cs : List Char) : Nat :=
  cs.foldl (fun n c => radix * n + (digitValue? c).getD 0) 0

/-- The number that a row of digits stands for; without digits there is none. -/
def numeral? (radix : Nat) (cs : List Char) : Option Nat :=
  if !cs.isEmpty && cs.all (isDigitOf radix) then some (digitsValue radix cs) else none

/-- Decimal digits after an optional sign. -/
def signedNumeral? : List Char → Option Int
  | '-' :: cs => (numeral? 10 cs).map fun n => -(n : Int)
  | '+' :: cs => (numeral? 10 cs).map fun n => (n : Int)
  | cs => (numeral? 10 cs).map fun n => (n : Int)

/-!
## UTF-16 code units

Widths and the order of names are counted in UTF-16 code units: a character beyond the basic
plane counts as two, and a surrogate sorts before U+E000 to U+FFFF.
-/

def units (c : Char) : List Nat :=
  let n := c.toNat
  if n < 0x10000 then [n] else [0xD800 + (n - 0x10000) / 0x400, 0xDC00 + (n - 0x10000) % 0x400]

def width (s : String) : Nat := (s.toList.flatMap units).length

/-- `s` sorts no later than `t`, unit by unit. -/
def unitsLe (s t : String) : Bool := decide (¬ t.toList.flatMap units < s.toList.flatMap units)

/-- Strings sorted by their code units; equal ones keep their order. -/
def sortByUnits (names : List String) : List String := names.mergeSort unitsLe

def copies (n : Nat) (c : Char) : String := String.ofList (List.replicate n c)

/-- Spaces after `s` until it is `n` units wide. -/
def padRight (s : String) (n : Nat) : String := s ++ copies (n - width s) ' '

/-!
## Output

What is written goes to a buffer, of which nothing is seen before the run is over
(`OutputBuffer`). Pieces are only appended.
-/

/-- The text written so far. -/
structure Output where
  text : String := ""
  deriving DecidableEq, Repr, Inhabited

namespace Output

def write (out : Output) (piece : String) : Output := ⟨out.text ++ piece⟩

def line (out : Output) (content : String) : Output := out.write (content ++ "\n")

/-- Appends line ends; a negative number of them has no meaning. -/
def blank? (out : Output) (count : Int) : Option Output :=
  if count < 0 then none else some (out.write (String.ofList (List.replicate count.toNat '\n')))

theorem text_foldl_line (out : Output) (lines : List String) :
    (lines.foldl line out).text = out.text ++ String.join (lines.map (· ++ "\n")) := by
  induction lines generalizing out with
  | nil => simp
  | cons first rest ih =>
    rw [List.foldl_cons, ih, List.map_cons, String.join_cons, ← String.append_assoc]
    rfl

/-- Appending line ends is writing empty lines. -/
theorem blank?_natCast (out : Output) (count : Nat) :
    out.blank? count = some ((List.replicate count "").foldl line out) := by
  have ends : String.join (List.replicate count "\n") =
      String.ofList (List.replicate count '\n') := by
    apply String.toList_inj.mp
    induction count with
    | zero => rfl
    | succ n ih => simp_all [List.replicate_succ]
  have written : ((List.replicate count "").foldl line out).text =
      out.text ++ String.ofList (List.replicate count '\n') := by
    rw [text_foldl_line, List.map_replicate, String.empty_append, ends]
  simp [blank?, write, ← written]

end Output

/-- The text of lines that are written one after another. -/
def ofLines (lines : List String) : String := (lines.foldl Output.line {}).text

theorem ofLines_eq_join (lines : List String) :
    ofLines lines = String.join (lines.map (· ++ "\n")) := by
  rw [ofLines, Output.text_foldl_line, String.empty_append]

theorem ofLines_cons (first : String) (rest : List String) :
    ofLines (first :: rest) = first ++ "\n" ++ ofLines rest := by
  simp only [ofLines_eq_join, List.map_cons, String.join_cons]

theorem toList_ofLines (lines : List String) :
    (ofLines lines).toList = lines.flatMap fun line => line.toList ++ ['\n'] := by
  induction lines with
  | nil => rfl
  | cons first rest ih =>
    rw [ofLines_cons, String.toList_append, String.toList_append, ih, List.flatMap_cons]
    rfl

theorem ofLines_append (lines lines' : List String) :
    ofLines (lines ++ lines') = ofLines lines ++ ofLines lines' := by
  simp only [ofLines_eq_join, List.map_append, String.join_append]

end NativeBindings.Text
