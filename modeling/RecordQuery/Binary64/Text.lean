import RecordQuery.Binary64.Basic
import RecordQuery.Text.Class

/-!
# Binary64 numbers as text

A decimal numeral is a run of digits with at most one point among or beside them, and possibly an
exponent.  It is read as the binary64 number nearest to its exact value.  The names of infinity
and of NaN are read as well, in any case; a sign may stand before all of these.

A positive number is written with the fewest decimal digits that still round to it, and among those
with the digits nearest to its value.  The reals that round to a number form an interval between the
midpoints to its neighbours; the midpoints themselves belong to it exactly when the significand is
even.  Every binary64 number is a whole multiple of `10 ^ -1074`, so the search is done in natural
numbers.  It walks from a coarse decimal grid to finer ones and stops at the first grid with a
point in the interval; if a grid has such a point, then one of the two grid points beside the value
is one.  The grid of `10 ^ -1074` itself always has one, the value.

The digits are laid out either positionally, with a point among them or with zeros beside them, or
with an exponent.  Where the one ends and the other begins, and whether a whole number shows a
point, is a matter of the format.
-/

namespace RecordQuery

open Text

namespace Binary64

/-! ## Exact decimal values -/

/-- The number nearest to `n * 10 ^ e`.  An exponent far enough from zero decides the result alone:
from `10 ^ 309` upwards every value rounds to infinity, and below `10 ^ -324` to zero. -/
def ofDecimal (negative : Bool) (n : Nat) (e : Int) : Binary64 :=
  if n = 0 then ofMagnitude negative 0
  else if 309 ≤ e then infinity negative
  else if 0 ≤ e then ofRatio negative (n * 10 ^ e.toNat) 1
  else if n.log2 + 325 < e.natAbs then ofMagnitude negative 0
  else ofRatio negative n (10 ^ e.natAbs)

/-! ## The grammar of numerals -/

/-- The sign at the start of a numeral and the text behind it; without a sign it is positive. -/
def splitSign : List Char → Bool × List Char
  | '-' :: cs => (true, cs)
  | '+' :: cs => (false, cs)
  | cs => (false, cs)

/-- The exponent at the end of a numeral: nothing for zero, or the letter E, perhaps a sign, and
digits. -/
def exponent? : List Char → Option Int
  | [] => some 0
  | c :: cs =>
    if c = 'e' ∨ c = 'E' then
      let (negative, digits) := splitSign cs
      (numeral? digits).map fun n => if negative then -(n : Int) else n
    else none

/-- The digits before the point, the digits behind it, and what follows them. -/
def splitDigits (cs : List Char) : List Char × List Char × List Char :=
  match cs.dropWhile isDigit with
  | '.' :: rest => (cs.takeWhile isDigit, rest.takeWhile isDigit, rest.dropWhile isDigit)
  | rest => (cs.takeWhile isDigit, [], rest)

/-- The number that an unsigned decimal numeral names; it has a digit before or behind the point. -/
def unsigned? (negative : Bool) (cs : List Char) : Option Binary64 :=
  let (whole, fraction, rest) := splitDigits cs
  if whole.isEmpty && fraction.isEmpty then none
  else (exponent? rest).map fun e =>
    ofDecimal negative (numeralFrom 0 (whole ++ fraction)) (e - fraction.length)

/-- The number that a name without its sign stands for, ASCII capitals counting as small. -/
def named? (negative : Bool) (cs : List Char) : Option Binary64 :=
  let name := cs.map Char.toLower
  if name = ['i', 'n', 'f'] ∨ name = ['i', 'n', 'f', 'i', 'n', 'i', 't', 'y'] then
    some (infinity negative)
  else if name = ['n', 'a', 'n'] then some (nan negative)
  else none

/-- The number that a text names: a sign or none, then a numeral or a name, and nothing else. -/
def parse? (cs : List Char) : Option Binary64 :=
  let (negative, body) := splitSign cs
  (unsigned? negative body).or (named? negative body)

/-! ## Shortest digits -/

/-- Which of two equally near decimals is taken. -/
inductive DecimalTie where
  | up
  /-- The one with the even last digit. -/
  | even
deriving DecidableEq

/-- A decimal number: `digits * 10 ^ exponent`. -/
structure Decimal where
  /-- The digits, read as one whole number. -/
  digits : Nat
  /-- The power of ten that the last digit counts. -/
  exponent : Int
deriving DecidableEq

namespace Shortest

/-- What is sought: the value, the ends of its interval, and the rules of choice.  The value is
counted in units of `10 ^ -1074`, the ends in half units. -/
structure Target where
  value : Nat
  /-- The lower end of the interval, doubled. -/
  low : Nat
  /-- The upper end of the interval, doubled. -/
  high : Nat
  /-- Whether the ends belong to the interval. -/
  closed : Bool
  tie : DecimalTie

/-- The target of a positive magnitude: its ends are the midpoints to the neighbours. -/
def Target.ofMagnitude (tie : DecimalTie) (m : Nat) : Target where
  value := unitsOfMagnitude m * 5 ^ (1074 : Nat)
  low := (unitsOfMagnitude (m - 1) + unitsOfMagnitude m) * 5 ^ (1074 : Nat)
  high := (unitsOfMagnitude m + unitsOfMagnitude (m + 1)) * 5 ^ (1074 : Nat)
  closed := m % 2 = 0
  tie := tie

/-- Whether a decimal lies in the interval. -/
def Target.admits (t : Target) (n : Nat) : Bool :=
  if t.closed then t.low ≤ 2 * n && 2 * n ≤ t.high else t.low < 2 * n && 2 * n < t.high

/-- Whether the upper of two neighbouring grid points is to be taken rather than the lower one,
`below` steps of `grid` from zero. -/
def Target.prefersAbove (t : Target) (grid below : Nat) : Bool :=
  let doubled := 2 * (t.value - below * grid)
  if doubled = grid then
    match t.tie with
    | .up => true
    | .even => below % 2 = 1
  else grid < doubled

/-- The digits of the first grid, from `10 ^ (n - 1074)` down, with a point in the interval, and
how many places above `10 ^ -1074` that grid lies. -/
def search (t : Target) : Nat → Nat × Nat
  | 0 => (t.value, 0)
  | n + 1 =>
    let grid := 10 ^ (n + 1)
    let below := t.value / grid
    match t.admits (below * grid), t.admits ((below + 1) * grid) with
    | true, true => (if t.prefersAbove grid below then below + 1 else below, n + 1)
    | true, false => (below, n + 1)
    | false, true => (below + 1, n + 1)
    | false, false => search t n

/-- A number of decimal places in which `n` fits: one bit takes less than 0.30103 places. -/
def places (n : Nat) : Nat := (n.log2 + 1) * 30103 / 100000 + 1

/-- The digits of the first of all grids with a point in the interval, and how many places above
`10 ^ -1074` that grid lies. -/
def found (t : Target) : Nat × Nat := search t (places t.value)

end Shortest

/-- The decimal of digits that were found and of their grid. -/
def Decimal.ofFound (found : Nat × Nat) : Decimal := ⟨found.1, found.2 - 1074⟩

/-- The shortest decimal that rounds to a positive magnitude. -/
def shortest (tie : DecimalTie) (m : Nat) : Decimal :=
  .ofFound (Shortest.found (Shortest.Target.ofMagnitude tie m))

end Binary64

/-! ## Layout -/

/-- The choices that turn shortest digits into a text. -/
structure NumberFormat where
  /-- Whether digits whose point stands so many places behind the first one are laid out
  positionally. -/
  positional : Int → Bool
  /-- Whether a whole number laid out positionally ends in `.0`. -/
  showsPoint : Bool
  tie : Binary64.DecimalTie

namespace NumberFormat

/-- Numbers as query literals show them: positional at any size, whole numbers without a point, and
of two equally near decimals the larger one. -/
def plain : NumberFormat := ⟨fun _ => true, false, .up⟩

/-- Digits with the point `point` places behind the start of the first digit. -/
def positionally (fmt : NumberFormat) (digits : List Char) (point : Int) : List Char :=
  if point ≤ 0 then '0' :: '.' :: List.replicate point.natAbs '0' ++ digits
  else if point.toNat < digits.length then
    digits.take point.toNat ++ '.' :: digits.drop point.toNat
  else
    digits ++ List.replicate (point.toNat - digits.length) '0'
      ++ if fmt.showsPoint then ['.', '0'] else []

/-- Digits with the point behind the first one, followed by a signed exponent. -/
def withExponent (digits : List Char) (exponent : Int) : List Char :=
  let fraction := digits.drop 1
  digits.take 1 ++ (if fraction.isEmpty then [] else '.' :: fraction)
    ++ 'e' :: (if exponent < 0 then '-' else '+') :: decimal exponent.natAbs

/-- The text of digits counting powers of ten from `exponent` upwards. -/
def layOut (fmt : NumberFormat) (digits : List Char) (exponent : Int) : List Char :=
  let point := exponent + digits.length
  if fmt.positional point then fmt.positionally digits point
  else withExponent digits (point - 1)

/-- The text of a finite magnitude. -/
def writeMagnitude (fmt : NumberFormat) (m : Nat) : List Char :=
  if m = 0 then fmt.layOut ['0'] 0
  else
    let shortest := Binary64.shortest fmt.tie m
    fmt.layOut (decimal shortest.digits) shortest.exponent

/-- The text of a number: a minus sign for a set sign bit, then the magnitude or its name; NaN has
no sign. -/
def write (fmt : NumberFormat) (x : Binary64) : List Char :=
  if x.isNaN then ['N', 'a', 'N']
  else
    (if x.isNegative then ['-'] else [])
      ++ if x.isFinite then fmt.writeMagnitude x.magnitude else ['i', 'n', 'f']

end NumberFormat

end RecordQuery
