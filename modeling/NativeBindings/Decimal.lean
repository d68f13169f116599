import NativeBindings.Text

/-!
# Decimal numbers

Double precision numbers, and how they are read from and written as decimals.
-/
namespace NativeBindings

/-!
## Double precision numbers

A number of the binary64 format as what it stands for: a sign, a whole number of units and a power
of two. `ofRatio` rounds a quotient to the nearest such number, a tie to the even one, so that
reading a decimal is exact arithmetic followed by one rounding.
-/

/-- Not a number, an infinity, or `±mantissa · 2 ^ exponent`. -/
inductive Binary64 where
  | nan
  | infinite (negative : Bool)
  | finite (negative : Bool) (mantissa : Nat) (exponent : Int)
  deriving DecidableEq, Repr, Inhabited

namespace Binary64

/-- The exponent of the smallest step between two numbers. -/
def minExponent : Int := -1074

def maxExponent : Int := 971

/-- The smallest mantissa of 53 bits; the mantissas of smaller numbers have fewer. -/
def leastMantissa : Nat := 4503599627370496

/-- The largest magnitude up to which every integer is distinguishable from its neighbours, the
largest mantissa of 53 bits. -/
def maxSafe : Nat := 2 * leastMantissa - 1

def roundHalfEven (num den : Nat) : Nat :=
  let q := num / den
  let r := num % den
  if 2 * r < den then q else if den < 2 * r then q + 1 else if q % 2 = 0 then q else q + 1

/-- The fraction `num / (den · 2 ^ e)` as a pair of whole numbers. -/
def scaled (num den : Nat) (e : Int) : Nat × Nat :=
  if 0 ≤ e then (num, den * Nat.pow 2 e.toNat) else (num * Nat.pow 2 (-e).toNat, den)

def zero (negative : Bool) : Binary64 := finite negative 0 minExponent

def ofRatio (negative : Bool) (num den : Nat) : Binary64 :=
  if num = 0 then zero negative
  else
    let guess : Int := (num.log2 : Int) - den.log2 - 52
    let (gn, gd) := scaled num den guess
    let e := max minExponent (if gn / gd < leastMantissa then guess - 1 else guess)
    let (n, d) := scaled num den e
    let m := roundHalfEven n d
    let (m, e) := if m = maxSafe + 1 then (leastMantissa, e + 1) else (m, e)
    if maxExponent < e then infinite negative else finite negative m e

def ofInt (n : Int) : Binary64 := ofRatio (n < 0) n.natAbs 1

/-- The double nearest to `± digits · 10 ^ exponent`. Magnitudes that are certainly beyond either
end of the format are settled without computing the power. -/
def ofDecimal (negative : Bool) (digits : Nat) (exponent : Int) : Binary64 :=
  let places : Int := (Nat.toDigits 10 digits).length
  if digits = 0 then zero negative
  else if 310 < places + exponent then infinite negative
  else if places + exponent < -330 then zero negative
  else if 0 ≤ exponent then ofRatio negative (digits * Nat.pow 10 exponent.toNat) 1
  else ofRatio negative digits (Nat.pow 10 (-exponent).toNat)

def toInt? : Binary64 → Option Int
  | nan => none
  | infinite _ => none
  | finite negative m e =>
    let (n, d) := scaled m 1 (-e)
    if n % d = 0 then
      let magnitude : Int := (n / d : Nat)
      some (if negative then -magnitude else magnitude)
    else none

/-- An integer small enough that its neighbours are doubles too. -/
def isSafe (n : Int) : Bool := n.natAbs ≤ maxSafe

/-- The integer that the double nearest to an integer stands for; beyond the format, the integer
itself. -/
def nearest (n : Int) : Int := if isSafe n then n else (ofInt n).toInt?.getD n

def toSafeInt? (x : Binary64) : Option Int := x.toInt?.filter isSafe

theorem nearest_of_isSafe {n : Int} (h : isSafe n = true) : nearest n = n := by
  simp [nearest, h]

theorem isSafe_of_toSafeInt? {x : Binary64} {n : Int} (h : x.toSafeInt? = some n) :
    isSafe n = true := (Option.filter_eq_some_iff.mp h).2

end Binary64

/-!
## Decimal literals

Numbers as they are written: a sign, digits with an optional point, an optional exponent. A literal
is read exactly and rounded once.
-/

open Text

/-- `± digits · 10 ^ exponent`. -/
structure DecimalLiteral where
  negative : Bool
  digits : Nat
  exponent : Int
  deriving DecidableEq, Repr

namespace DecimalLiteral

def sign : List Char → Bool × List Char
  | '-' :: cs => (true, cs)
  | '+' :: cs => (false, cs)
  | cs => (false, cs)

/-- The exponent at the end of a literal; nothing at all is the exponent zero. -/
def exponent? : List Char → Option Int
  | [] => some 0
  | c :: cs =>
    if c == 'e' || c == 'E' then
      let (negative, digits) := sign cs
      (numeral? 10 digits).map fun n => if negative then -(n : Int) else n
    else none

/-- Reads `[+-] digits [. digits] [e [+-] digits]`, where the digits on one side of the point may
be missing. -/
def read? (cs : List Char) : Option DecimalLiteral :=
  let (negative, cs) := sign cs
  let isDigit := isDigitOf 10
  let whole := cs.takeWhile isDigit
  let afterWhole := cs.dropWhile isDigit
  let (fraction, rest) := match afterWhole with
    | '.' :: cs => (cs.takeWhile isDigit, cs.dropWhile isDigit)
    | cs => ([], cs)
  if whole.isEmpty && fraction.isEmpty then none
  else (exponent? rest).map fun exponent =>
    { negative, digits := digitsValue 10 (whole ++ fraction),
      exponent := exponent - (fraction.length : Int) }

def value (l : DecimalLiteral) : Binary64 := .ofDecimal l.negative l.digits l.exponent

end DecimalLiteral

/-- The number a text stands for when blanks around it do not count: nothing is zero, `0x`, `0o` and
`0b` (in either case) start a numeral of another radix, and what is no numeral is not a number. -/
def Binary64.ofText (s : String) : Binary64 :=
  let radix (r : Nat) (cs : List Char) : Binary64 :=
    ((numeral? r cs).map fun n => Binary64.ofInt n).getD .nan
  match trimChars s.toList with
  | [] => zero false
  | '0' :: 'x' :: cs => radix 16 cs
  | '0' :: 'X' :: cs => radix 16 cs
  | '0' :: 'o' :: cs => radix 8 cs
  | '0' :: 'O' :: cs => radix 8 cs
  | '0' :: 'b' :: cs => radix 2 cs
  | '0' :: 'B' :: cs => radix 2 cs
  | cs =>
    let (negative, unsigned) := DecimalLiteral.sign cs
    if unsigned == "Infinity".toList then infinite negative
    else ((DecimalLiteral.read? cs).map DecimalLiteral.value).getD .nan

/-!
## The shortest decimal of a double

Among the decimals that read back as a double, the one with the fewest digits, and of those the
nearest. It is found on the coarsest decimal grid that has a point in the interval of reals that
round to the double: if any point of a grid lies there, one of the two around the value does.
`NumberFormat` then says where the point goes and from which size on an exponent is written.
-/

/-- `digits · 10 ^ exponent`. -/
structure Decimal where
  digits : Nat
  exponent : Int
  deriving DecidableEq, Repr, Inhabited

namespace Decimal

/-- The reals that round to a double, and the double, over one denominator. -/
structure Rounding where
  low : Nat
  value : Nat
  high : Nat
  den : Nat
  closed : Bool

/-- The interval of `mantissa · 2 ^ exponent`. It is narrower below a power of two, and holds its
ends iff the mantissa is even. -/
def Rounding.of (mantissa : Nat) (exponent : Int) : Rounding :=
  let below := if mantissa = Binary64.leastMantissa ∧ Binary64.minExponent < exponent then 1 else 2
  let quarter := exponent - 2
  let (unit, den) := Binary64.scaled 1 1 (-quarter)
  { low := (4 * mantissa - below) * unit, value := 4 * mantissa * unit,
    high := (4 * mantissa + 2) * unit, den, closed := mantissa % 2 == 0 }

def Rounding.holds (r : Rounding) (n d : Nat) : Bool :=
  if r.closed then r.low * d ≤ n * r.den && n * r.den ≤ r.high * d
  else r.low * d < n * r.den && n * r.den < r.high * d

/-- The grid point of `10 ^ exponent` in the interval that is nearest to the value, a tie going
to the even one. -/
def Rounding.onGrid? (r : Rounding) (exponent : Int) : Option Nat :=
  let (up, down) : Nat × Nat :=
    if 0 ≤ exponent then (Nat.pow 10 exponent.toNat, 1) else (1, Nat.pow 10 (-exponent).toNat)
  let floor := r.value * down / (r.den * up)
  let inside (k : Nat) : Bool := r.holds (k * up) down
  let twice := 2 * (r.value * down)
  let middle := (2 * floor + 1) * (r.den * up)
  match inside floor, inside (floor + 1) with
  | true, false => some floor
  | false, true => some (floor + 1)
  | true, true =>
    if twice < middle then some floor
    else if middle < twice then some (floor + 1)
    else some (if floor % 2 = 0 then floor else floor + 1)
  | false, false => none

def Rounding.firstGrid (r : Rounding) : Nat → Int → Decimal
  | 0, exponent => ⟨0, exponent⟩
  | steps + 1, exponent =>
    match r.onGrid? exponent with
    | some k => ⟨k, exponent⟩
    | none => r.firstGrid steps (exponent - 1)

/-- The shortest decimal that reads back as `mantissa · 2 ^ exponent`. No double reaches `10 ^ 309`,
and each is a point of the grid of `10 ^ -1074`. -/
def shortest (mantissa : Nat) (exponent : Int) : Decimal :=
  (Rounding.of mantissa exponent).firstGrid 1390 309

end Decimal

structure NumberFormat where
  /-- Digits are written without an exponent up to this many places before the point. -/
  maxPlaces : Int
  /-- And down to this many zeros after the point. -/
  maxZeros : Int
  nan : String
  infinity : String

namespace NumberFormat

def positional (digits : List Char) (point : Int) : List Char :=
  if point ≤ 0 then '0' :: '.' :: List.replicate (-point).toNat '0' ++ digits
  else if digits.length ≤ point.toNat then
    digits ++ List.replicate (point.toNat - digits.length) '0'
  else digits.take point.toNat ++ '.' :: digits.drop point.toNat

def scientific (digits : List Char) (point : Int) : List Char :=
  let exponent := point - 1
  let mantissa := match digits with
    | d :: d' :: ds => d :: '.' :: d' :: ds
    | ds => ds
  mantissa ++ 'e' :: (if exponent < 0 then '-' else '+') :: Nat.toDigits 10 exponent.natAbs

def decimal (format : NumberFormat) (d : Decimal) : List Char :=
  let digits := Nat.toDigits 10 d.digits
  let point := (digits.length : Int) + d.exponent
  if -format.maxZeros < point && point ≤ format.maxPlaces then positional digits point
  else scientific digits point

/-- A double. Both zeros are written alike. -/
def text (format : NumberFormat) : Binary64 → String
  | .nan => format.nan
  | .infinite negative => (if negative then "-" else "") ++ format.infinity
  | .finite negative mantissa exponent =>
    if mantissa = 0 then "0"
    else (if negative then "-" else "") ++
      String.ofList (format.decimal (Decimal.shortest mantissa exponent))

end NumberFormat

/-- Numbers in messages and texts are positional from `1e-6` up to below `1e21`. -/
def Binary64.format : NumberFormat :=
  { maxPlaces := 21, maxZeros := 6, nan := "NaN", infinity := "Infinity" }

def Binary64.text (x : Binary64) : String := Binary64.format.text x

/-- The text of a count. Counts are doubles, which are exact up to `2 ^ 53`; beyond that the digits
are those of the nearest double. -/
def countText (n : Int) : String :=
  if n.natAbs ≤ Binary64.maxSafe + 1 then toString n else (Binary64.ofInt n).text

end NativeBindings
