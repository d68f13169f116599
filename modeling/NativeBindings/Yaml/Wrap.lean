import NativeBindings.Text
import NativeBindings.Yaml.Quoted

/-!
# Breaking long lines

A scalar that is written in flow style is broken into lines where it gets too long. A line is broken
at a single space, which the line end then stands for; between double quotes it may be broken
anywhere else too, after a backslash. Widths are counted in UTF-16 units.
-/
namespace NativeBindings.Yaml

open Text

def lineWidth : Nat := 80

/-- The least part of a line that is left to a scalar. -/
def leastContent : Nat := 20

/-- A place where a line is broken: the unit before which, and whether after a backslash. The unit
of another break is a space, which is left out. -/
structure LineBreak where
  place : Nat
  escaped : Bool := false
  deriving DecidableEq, Repr

structure Wrapping where
  /-- The unit from which on the line is too long. -/
  limit : Nat
  /-- The last single space of the line. -/
  space : Option Nat := none
  previous : Option Nat := none
  /-- The first and the last unit of the last escape. -/
  escape : Option (Nat × Nat) := none
  /-- The breaks so far, the last one first. -/
  breaks : List LineBreak := []

def isWhiteUnit (n : Nat) : Bool := n == 0x20 || n == 0x0A || n == 0x09

def escapeWidth (next : Option Nat) : Nat :=
  if next == some 'x'.toNat then 3 else if next == some 'u'.toNat then 5
  else if next == some 'U'.toNat then 9 else 1

/-- Passes the blanks at the end of a line that is too long: the unit from which on the search goes
on, and what stands there. The number bounds how many blanks there are. -/
def skipBlanks (units : Array Nat) :
    Nat → (i : Nat) → (previous current : Option Nat) → Nat × Option Nat
  | 0, i, _, current => (i, current)
  | fuel + 1, i, previous, current =>
    if previous == some 0x20 || previous == some 0x09 then
      skipBlanks units fuel (i + 1) current units[i + 1]?
    else (i, current)

/-- Finds the breaks of a text from unit `i` on, `width` units being the longest line after a break.
A text that would be broken twice at one place is not broken at all. -/
def findBreaks (isQuoted : Bool) (indent width : Nat) (units : Array Nat) :
    Nat → Nat → Wrapping → Option (List LineBreak)
  | 0, _, w => some w.breaks.reverse
  | fuel + 1, i, w =>
    match units[i]? with
    | none => some w.breaks.reverse
    | some c =>
      let start := i
      let isEscape := isQuoted && c == '\\'.toNat
      let i := if isEscape then i + escapeWidth units[i + 1]? else i
      let w := if isEscape then { w with escape := some (start, i) } else w
      if c == 0x0A then
        findBreaks isQuoted indent width units fuel (i + 1)
          { w with limit := i + indent + width, space := none, previous := some c }
      else
        let isSingle := c == 0x20 && w.previous.any (!isWhiteUnit ·) &&
          (units[i + 1]?).any (!isWhiteUnit ·)
        let w := if isSingle then { w with space := some i } else w
        if i < w.limit then
          findBreaks isQuoted indent width units fuel (i + 1) { w with previous := some c }
        else match w.space with
          | some place =>
            findBreaks isQuoted indent width units fuel (i + 1)
              { w with
                breaks := { place } :: w.breaks, limit := place + width, space := none
                previous := some c }
          | none =>
            if isQuoted then
              let (i, previous) := skipBlanks units units.size i w.previous (some c)
              let place := match w.escape with
                | some (first, last) => if last + 1 < i then i - 2 else first - 1
                | none => i - 2
              if w.breaks.any fun b => b.escaped && b.place == place then none
              else
                findBreaks isQuoted indent width units fuel (i + 1)
                  { w with
                    breaks := { place, escaped := true } :: w.breaks, limit := place + width
                    previous }
            else findBreaks isQuoted indent width units fuel (i + 1) { w with previous := some c }

def applyBreaks (isQuoted : Bool) (indent : Nat) (units : Array Nat) (breaks : List LineBreak) :
    List Nat :=
  let stops := (breaks.map (·.place)).drop 1 ++ [units.size]
  let start := (units.extract 0 ((breaks.map (·.place)).headD units.size)).toList
  let newLine := 0x0A :: List.replicate indent 0x20
  start ++ (breaks.zip stops).flatMap fun (b, stop) =>
    if b.place = 0 then newLine ++ (units.extract 0 stop).toList
    else
      (if isQuoted && b.escaped then [units[b.place]?.getD 0x20, '\\'.toNat] else []) ++
        newLine ++ (units.extract (b.place + 1) stop).toList

/-- Breaks a text into lines. The first line starts at the column `start`, if that is known, and the
others are indented. -/
def wrap (isQuoted : Bool) (indent : Nat) (start : Option Nat) (text : String) : String :=
  let units := (text.toList.flatMap units).toArray
  let width := max (1 + leastContent) (1 + lineWidth - indent)
  if units.size ≤ width then text
  else
    let isLate := start.any (lineWidth - leastContent < ·)
    let w : Wrapping :=
      { limit := lineWidth - (if isLate then indent else start.getD indent)
        breaks := if isLate then [{ place := 0 }] else [] }
    match findBreaks isQuoted indent width units (units.size + 1) 0 w with
    | none => text
    | some [] => text
    | some breaks => String.ofList (joinSurrogates (applyBreaks isQuoted indent units breaks))

end NativeBindings.Yaml
