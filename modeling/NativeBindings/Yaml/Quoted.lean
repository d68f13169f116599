import NativeBindings.Text
import NativeBindings.Yaml.Lexeme

/-!
# Quoted scalars

Between single quotes a quote is written twice. Between double quotes a backslash starts an escape.
Both run over several lines, which are folded.

Escapes may name UTF-16 units, so a text between double quotes is read into code points and
surrogates first, and pairs of surrogates are joined at the end.
-/
namespace NativeBindings.Yaml

open Text

/-- What stands between the quotes of a scalar. The last character has to be a quote; it may be one
that does not close the scalar. -/
def unquoted? (quote : Char) (cs : List Char) : Option (List Char) :=
  match cs with
  | _ :: inner => if inner.getLast? == some quote then some inner.dropLast else none
  | [] => none

def joinQuotes : List Char → List Char
  | '\'' :: '\'' :: cs => '\'' :: joinQuotes cs
  | c :: cs => c :: joinQuotes cs
  | [] => []

def singleQuoted? (cs : List Char) : Option (List Char) :=
  (unquoted? '\'' cs).map fun inner => joinQuotes (foldLines inner)

/-- The character that an escape of one letter stands for. -/
def escape? : Char → Option Nat
  | '0' => some 0
  | 'a' => some 0x07
  | 'b' => some 0x08
  | 'e' => some 0x1B
  | 'f' => some 0x0C
  | 'n' => some 0x0A
  | 'r' => some 0x0D
  | 't' => some 0x09
  | 'v' => some 0x0B
  | 'N' => some 0x85
  | '_' => some 0xA0
  | 'L' => some 0x2028
  | 'P' => some 0x2029
  | ' ' => some 0x20
  | '"' => some 0x22
  | '/' => some 0x2F
  | '\\' => some 0x5C
  | '\t' => some 0x09
  | _ => none

/-- The number of hexadecimal digits after an escape of a code. -/
def codeDigits? : Char → Option Nat
  | 'x' => some 2
  | 'u' => some 4
  | 'U' => some 8
  | _ => none

/-- What has been read without being decided. -/
inductive Pending where
  /-- Blanks, which count unless the line ends. -/
  | gaps (held : List Nat)
  /-- A line end and so many more. -/
  | breaks (more : Nat)
  /-- An escaped line end; the blanks after it do not count. -/
  | skipped
  /-- An escape of a code: the digits that are missing, and the code so far. -/
  | code (missing value : Nat)

namespace Pending

def nothing : Pending := gaps []

/-- What it comes to when content follows; a code may not be cut short. -/
def flush : Pending → Option (List Nat)
  | gaps held => some held.reverse
  | breaks 0 => some [0x20]
  | breaks more => some (List.replicate more 0x0A)
  | skipped => some []
  | code _ _ => none

def gap (c : Char) : Pending → Pending
  | gaps held => gaps (c.toNat :: held)
  | other => other

def lineBreak : Pending → Pending
  | breaks more => breaks (more + 1)
  | _ => breaks 0

end Pending

/-- Reads the text between double quotes. A backslash at its end escapes the quote after it. -/
def unescape : Pending → List Char → Option (List Nat)
  | .code (missing + 1) value, c :: cs => do
    let digit ← digitValue? c
    let value := 16 * value + digit
    match missing with
    | 0 =>
      if value < 0x110000 then return value :: (← unescape .nothing cs) else none
    | _ => unescape (.code missing value) cs
  | pending, [] => pending.flush
  | pending, ['\\'] => do return (← pending.flush) ++ ['"'.toNat]
  | pending, '\\' :: '\r' :: '\n' :: cs => do
    return (← pending.flush) ++ (← unescape .skipped cs)
  | pending, '\\' :: c :: cs => do
    let before ← pending.flush
    if c == '\n' then return before ++ (← unescape .skipped cs)
    match codeDigits? c with
    | some digits => return before ++ (← unescape (.code digits 0) cs)
    | none => return before ++ (← escape? c) :: (← unescape .nothing cs)
  | pending, '\r' :: '\n' :: cs => unescape pending.lineBreak cs
  | pending, c :: cs =>
    if c == '\n' then unescape pending.lineBreak cs
    else if isGap c then unescape (pending.gap c) cs
    else do return (← pending.flush) ++ c.toNat :: (← unescape .nothing cs)

/-- Joins surrogates to characters. A surrogate without its other half is the replacement
character. -/
def joinSurrogates : List Nat → List Char
  | [] => []
  | [n] => [single n]
  | n :: m :: rest =>
    if 0xD800 ≤ n ∧ n < 0xDC00 ∧ 0xDC00 ≤ m ∧ m < 0xE000 then
      Char.ofNat (0x10000 + (n - 0xD800) * 0x400 + (m - 0xDC00)) :: joinSurrogates rest
    else single n :: joinSurrogates (m :: rest)
where
  single (n : Nat) : Char := if 0xD800 ≤ n ∧ n < 0xE000 then '\uFFFD' else Char.ofNat n

def doubleQuoted? (cs : List Char) : Option (List Char) := do
  return joinSurrogates (← unescape .nothing (← unquoted? '"' cs))

end NativeBindings.Yaml
