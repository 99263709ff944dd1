/-!
# Binary64 numbers

A binary64 number is a 64-bit word: a sign bit and a magnitude of 63 bits.  The magnitude orders
the numbers of one sign, infinities and NaNs included, so every comparison is a comparison of
integers made from it.  A finite magnitude stands for a whole number of units, a unit being
`2 ^ -1074`, the smallest positive binary64 number.

Every exact result that is not a binary64 number is rounded to the nearest one, and a result half
way between two goes to the one with the even significand.  A result from half a unit in the last
place beyond the largest finite number upwards becomes infinity.  The exact result is a quotient of
natural numbers.  Counted in units it has some number of bits; all but the leading 53 of them are
rounded away.  The carry of a significand that rounds up to `2 ^ 53` runs into the exponent bits,
which is where it belongs.

A number is cut off behind its point, and what was cut off is what it has beyond a whole number.  A
number that has nothing there can be kept in a word of 64 bits, if it lies between the ends of the
words.  The upper end is taken as a binary64 number, which is one more than the last word, so that
the number has to lie below it.
-/

namespace RecordQuery

-- Powers of numbers are those of the core library, also where the powers of monoids are in scope.
-- The exponents that are literals have their type written out, for a literal alone would take the
-- default, which is the power of the monoid.
attribute [scoped instance (2000)] instPowNat

/-- A binary64 number, by its word. -/
structure Binary64 where
  /-- The word: the sign bit above the magnitude. -/
  word : BitVec 64
deriving DecidableEq

namespace Binary64

/-! ## Sign and magnitude -/

/-- Whether the sign bit is set. -/
def isNegative (x : Binary64) : Bool := x.word.msb

/-- The word without its sign bit. -/
def magnitude (x : Binary64) : Nat := x.word.toNat % 2 ^ (63 : Nat)

/-- The magnitude of the infinities: all exponent bits and no other. -/
def infinityMagnitude : Nat := 2047 * 2 ^ (52 : Nat)

/-- The number with the given sign and magnitude. -/
def ofMagnitude (negative : Bool) (magnitude : Nat) : Binary64 :=
  ⟨BitVec.ofNat 64 ((if negative then 2 ^ (63 : Nat) else 0) + magnitude % 2 ^ (63 : Nat))⟩

/-- Neither an infinity nor NaN. -/
def isFinite (x : Binary64) : Bool := x.magnitude < infinityMagnitude

/-- Not a number: the magnitude lies beyond that of the infinities. -/
def isNaN (x : Binary64) : Bool := infinityMagnitude < x.magnitude

/-- Positive zero. -/
def zero : Binary64 := ofMagnitude false 0

/-- The infinity of a sign. -/
def infinity (negative : Bool) : Binary64 := ofMagnitude negative infinityMagnitude

/-- The quiet NaN of a sign with no further bits set. -/
def nan (negative : Bool) : Binary64 := ofMagnitude negative (infinityMagnitude + 2 ^ (51 : Nat))

/-- The same number with the opposite sign. -/
def neg (x : Binary64) : Binary64 := ofMagnitude (!x.isNegative) x.magnitude

/-! ## Value -/

/-- How many units of `2 ^ -1074` a finite magnitude stands for.  The exponent bits below one
count as one, and only from one on is the leading bit of the significand implied. -/
def unitsOfMagnitude (m : Nat) : Nat :=
  if m < 2 ^ (52 : Nat) then m
  else (2 ^ (52 : Nat) + m % 2 ^ (52 : Nat)) * 2 ^ (m / 2 ^ (52 : Nat) - 1)

/-- The exact value of a finite number, in units of `2 ^ -1074`. -/
def units (x : Binary64) : Int :=
  if x.isNegative then -(unitsOfMagnitude x.magnitude : Int) else unitsOfMagnitude x.magnitude

/-! ## Order -/

/-- The place of a number that is not NaN on the number line; both zeros have place 0. -/
def place (x : Binary64) : Int := if x.isNegative then -(x.magnitude : Int) else x.magnitude

/-- The place of a number in the total order of all words, in which `-0` precedes `0`, the
negative NaNs precede all else and the positive NaNs follow all else. -/
def totalPlace (x : Binary64) : Int :=
  if x.isNegative then -(x.magnitude : Int) - 1 else x.magnitude

/-- Numeric comparison; NaN is comparable to nothing. -/
def compare? (x y : Binary64) : Option Ordering :=
  if x.isNaN || y.isNaN then none else some (compare x.place y.place)

/-- Numeric equality: both zeros are equal, and NaN differs from itself. -/
def numericEq (x y : Binary64) : Bool := x.compare? y == some .eq

/-- The total order of all words. -/
def totalCompare (x y : Binary64) : Ordering := compare x.totalPlace y.totalPlace

/-- Two numbers are incomparable exactly when one of them is NaN. -/
theorem compare?_eq_none_iff (x y : Binary64) :
    x.compare? y = none ↔ x.isNaN = true ∨ y.isNaN = true := by
  cases hx : x.isNaN <;> simp [compare?, hx]

end Binary64

/-! ## Rounding a quotient -/

/-- The whole number nearest to `num / den`; of two equally near ones the even one. -/
def divNearestEven (num den : Nat) : Nat :=
  let quotient := num / den
  let doubled := 2 * (num % den)
  if doubled < den ∨ (doubled = den ∧ quotient % 2 = 0) then quotient else quotient + 1

/-- A whole quotient is kept. -/
theorem divNearestEven_mul_self (q : Nat) {den : Nat} (hden : 0 < den) :
    divNearestEven (q * den) den = q := by
  simp [divNearestEven, Nat.mul_div_cancel _ hden, hden]

namespace Binary64

/-- The magnitude nearest to `num / den`. -/
def magnitudeOfRatio (num den : Nat) : Nat :=
  let units := num * 2 ^ (1074 : Nat)
  let dropped := (units / den).log2 - 52
  min infinityMagnitude (dropped * 2 ^ (52 : Nat) + divNearestEven units (den * 2 ^ dropped))

/-- No quotient rounds beyond infinity. -/
theorem magnitudeOfRatio_le (num den : Nat) : magnitudeOfRatio num den ≤ infinityMagnitude :=
  Nat.min_le_left _ _

/-- The number nearest to `num / den` with the given sign. -/
def ofRatio (negative : Bool) (num den : Nat) : Binary64 :=
  ofMagnitude negative (magnitudeOfRatio num den)

/-- The number nearest to a natural number. -/
def ofNat (n : Nat) : Binary64 := ofRatio false n 1

/-- The number nearest to an integer. -/
def ofInt (n : Int) : Binary64 := ofRatio (n < 0) n.natAbs 1

/-! ## Arithmetic of finite numbers -/

/-- The sum of two finite numbers, rounded; a sum of zero is positive. -/
def add (x y : Binary64) : Binary64 :=
  ofRatio (x.units + y.units < 0) (x.units + y.units).natAbs (2 ^ (1074 : Nat))

/-- The product of two finite numbers, rounded. -/
def mul (x y : Binary64) : Binary64 :=
  ofRatio (x.isNegative != y.isNegative)
    (unitsOfMagnitude x.magnitude * unitsOfMagnitude y.magnitude) (2 ^ (2148 : Nat))

/-- The quotient of a finite number by a finite number other than zero, rounded. -/
def div (x y : Binary64) : Binary64 :=
  ofRatio (x.isNegative != y.isNegative)
    (unitsOfMagnitude x.magnitude) (unitsOfMagnitude y.magnitude)

/-! ## Whole numbers -/

/-- The number without what stands behind its point; it keeps its sign. -/
def truncate (x : Binary64) : Binary64 :=
  ofRatio x.isNegative (unitsOfMagnitude x.magnitude / 2 ^ (1074 : Nat)) 1

/-- What stands behind the point of a finite number, with its sign. -/
def fraction (x : Binary64) : Binary64 := x.add x.truncate.neg

/-- Whether a number lies below another one. -/
def isBelow (x y : Binary64) : Bool := x.compare? y == some .lt

/-- Whether a number lies below another one or equals it. -/
def isAtMost (x y : Binary64) : Bool := x.isBelow y || x.numericEq y

/-- A number without its fraction as a word.  A number beyond the words becomes the last word on its
side, and NaN becomes zero. -/
def toWord (x : Binary64) : Int64 :=
  if x.isNaN then 0
  else
    Int64.ofInt (max (-2 ^ (63 : Nat)) (min (2 ^ (63 : Nat) - 1) (x.units.tdiv (2 ^ (1074 : Nat)))))

/-- The word that a finite number is, if it has no fraction and lies between the ends of the
words. -/
def word? (x : Binary64) : Option Int64 :=
  if x.fraction.numericEq zero && (ofInt (-2 ^ (63 : Nat))).isAtMost x &&
      x.isBelow (ofInt (2 ^ (63 : Nat) - 1)) then
    some x.toWord
  else none

end Binary64

end RecordQuery
