/-!
# Binary64 numbers by bit pattern

A load factor is carried as the 64-bit pattern it was given, so that two encodings of "not a
number" stay apart and an infinity or a negative zero is kept as it is.  Every finite magnitude is
a whole multiple of the least positive one, `2 ^ (-1074)`; arithmetic is exact on these multiples
and rounds once, to the nearest pattern with ties to the even one.
-/

namespace ObliviousLog

/-- An IEEE 754 binary64 number, given by its bit pattern. -/
structure Binary64 where
  /-- The sign bit, the eleven exponent bits and the fifty-two fraction bits. -/
  bits : UInt64
deriving DecidableEq, Inhabited

namespace Binary64

/-- The sign bit. -/
def isNegative (x : Binary64) : Bool :=
  decide (1 <<< 63 ≤ x.bits.toNat)

/-- The pattern below the sign bit.  Larger magnitudes have larger values. -/
def magnitude (x : Binary64) : Nat :=
  x.bits.toNat % 1 <<< 63

/-- The magnitude that stands for an infinite value. -/
def infiniteMagnitude : Nat :=
  2047 <<< 52

/-- The pattern with a given sign and magnitude. -/
def ofMagnitude (negative : Bool) (magnitude : Nat) : Binary64 :=
  ⟨UInt64.ofNat (if negative then 1 <<< 63 + magnitude else magnitude)⟩

/-- Whether the pattern stands for no number at all. -/
def isNaN (x : Binary64) : Bool :=
  decide (infiniteMagnitude < x.magnitude)

/-- Whether the pattern stands for one of the two infinities. -/
def isInfinite (x : Binary64) : Bool :=
  decide (x.magnitude = infiniteMagnitude)

/-- Whether the pattern is one of the two zeros. -/
def isZero (x : Binary64) : Bool :=
  decide (x.magnitude = 0)

/-- The quiet pattern that undefined arithmetic produces. -/
def nan : Binary64 :=
  ofMagnitude false (infiniteMagnitude + 1 <<< 51)

/-- The absolute value of a finite number, in multiples of `2 ^ (-1074)`. -/
def units (x : Binary64) : Nat :=
  let exponent := x.magnitude / 1 <<< 52
  let fraction := x.magnitude % 1 <<< 52
  if exponent = 0 then fraction else (1 <<< 52 + fraction) <<< (exponent - 1)

/-- The whole number nearest to `numerator / denominator`, a tie going to the even neighbour. -/
def roundHalfEven (numerator denominator : Nat) : Nat :=
  let quotient := numerator / denominator
  let twiceRemainder := 2 * (numerator % denominator)
  if denominator < twiceRemainder ∨ (twiceRemainder = denominator ∧ quotient % 2 = 1) then
    quotient + 1
  else
    quotient

/-- The magnitude nearest to `numerator / denominator` multiples of `2 ^ (-1074)`.  A significand
that rounds up to `2 ^ 53` carries into the exponent, and past the largest finite magnitude the
carry reaches the infinite one. -/
def roundUnits (numerator denominator : Nat) : Nat :=
  let exponent := (numerator / denominator).log2 - 52
  min (exponent <<< 52 + roundHalfEven numerator (denominator <<< exponent)) infiniteMagnitude

/-- The number nearest to the quotient of two whole numbers. -/
def ofRatio (numerator denominator : Nat) : Binary64 :=
  ofMagnitude false (roundUnits (numerator <<< 1074) denominator)

/-- The number nearest to a whole number. -/
def ofNat (value : Nat) : Binary64 :=
  ofRatio value 1

/-- Zero. -/
def zero : Binary64 :=
  ofNat 0

/-- One. -/
def one : Binary64 :=
  ofNat 1

/-- The product, rounded to nearest. -/
def mul (x y : Binary64) : Binary64 :=
  let negative := x.isNegative != y.isNegative
  if x.isNaN || y.isNaN then
    nan
  else if x.isInfinite || y.isInfinite then
    if x.isZero || y.isZero then nan else ofMagnitude negative infiniteMagnitude
  else
    ofMagnitude negative (roundUnits (x.units * y.units) (1 <<< 1074))

/-- The quotient, rounded to nearest. -/
def div (x y : Binary64) : Binary64 :=
  let negative := x.isNegative != y.isNegative
  if x.isNaN || y.isNaN || (x.isInfinite && y.isInfinite) || (x.isZero && y.isZero) then
    nan
  else if x.isInfinite || y.isZero then
    ofMagnitude negative infiniteMagnitude
  else if y.isInfinite then
    ofMagnitude negative 0
  else
    ofMagnitude negative (roundUnits (x.units <<< 1074) y.units)

instance : Mul Binary64 := ⟨mul⟩

instance : Div Binary64 := ⟨div⟩

/-- The position of a number in the order of values; the two zeros share one. -/
def rank (x : Binary64) : Int :=
  if x.isNegative then -(x.magnitude : Int) else x.magnitude

/-- Comparison of values.  What is not a number is below nothing. -/
def lt (x y : Binary64) : Bool :=
  !x.isNaN && !y.isNaN && decide (x.rank < y.rank)

/-- Comparison of values, allowing equality. -/
def le (x y : Binary64) : Bool :=
  !x.isNaN && !y.isNaN && decide (x.rank ≤ y.rank)

/-- Equality of values: the two zeros are equal, and what is not a number equals nothing. -/
def equal (x y : Binary64) : Bool :=
  !x.isNaN && !y.isNaN && decide (x.rank = y.rank)

/-- The whole part of a number as a 64-bit count: nothing below zero or of what is not a number,
and the greatest count for anything too large. -/
def floorCount (x : Binary64) : Nat :=
  if x.isNaN || x.isNegative then
    0
  else if x.isInfinite then
    UInt64.size - 1
  else
    min (x.units / 1 <<< 1074) (UInt64.size - 1)

end Binary64
end ObliviousLog
