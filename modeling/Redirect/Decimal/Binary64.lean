/-
# Binary fractions of 53 bits

The numbers that a 64-bit binary floating format can hold, without their sign: a whole
number below 2^53 times a power of two. Every result is the exact one rounded to the
nearest such number, a tie going to the even neighbour, so arithmetic is arithmetic of
natural numbers with one rounding at the end. A result past the largest number is none.
-/

namespace Redirect.Decimal

/-- The quotient rounded to the nearest whole number, a tie to the even neighbour. -/
def roundDiv (numerator denominator : Nat) : Nat :=
  let whole := numerator / denominator
  let twice := 2 * (numerator % denominator)
  if twice < denominator then whole
  else if denominator < twice then whole + 1
  else whole + whole % 2

/-- The number `significand * 2 ^ exponent`. -/
structure Binary64 where
  significand : Nat
  exponent : Int
  deriving DecidableEq, Repr

namespace Binary64

/-- The exponent of the smallest numbers. -/
def leastExponent : Int := -1074

/-- The exponent of the largest numbers. -/
def greatestExponent : Int := 971

/-- Zero. -/
def zero : Binary64 := ⟨0, leastExponent⟩

/-- A whole number times a power of two; a negative exponent counts as zero. -/
def scaleUp (n : Nat) (exponent : Int) : Nat :=
  n * Nat.pow 2 exponent.toNat

/-- The least significand with all its bits. -/
def leastFull : Nat := Nat.pow 2 52

/-- The nearest number to a positive fraction, or none when it is past the largest. -/
def ofRatio? (numerator denominator : Nat) : Option Binary64 :=
  if numerator = 0 then some zero
  else
    let size : Int := (numerator.log2 : Int) - denominator.log2
    let low := size - 53
    let fine := scaleUp numerator (-low) < scaleUp denominator low * (2 * leastFull)
    let exponent := max (if fine then low else low + 1) leastExponent
    let significand := roundDiv (scaleUp numerator (-exponent)) (scaleUp denominator exponent)
    let rounded : Binary64 :=
      if significand = 2 * leastFull then ⟨leastFull, exponent + 1⟩ else ⟨significand, exponent⟩
    if greatestExponent < rounded.exponent then none else some rounded

/-- The numerator of the number as a fraction. -/
def numerator (x : Binary64) : Nat :=
  scaleUp x.significand x.exponent

/-- The denominator of the number as a fraction: a power of two. -/
def denominator (x : Binary64) : Nat :=
  scaleUp 1 (-x.exponent)

/-- The nearest number to a product. -/
def mul? (x y : Binary64) : Option Binary64 :=
  ofRatio? (x.numerator * y.numerator) (x.denominator * y.denominator)

/-- The nearest number to a quotient. -/
def div? (x y : Binary64) : Option Binary64 :=
  ofRatio? (x.numerator * y.denominator) (x.denominator * y.numerator)

/-- The nearest number to a power of ten. -/
def powerOfTen? (exponent : Nat) : Option Binary64 :=
  ofRatio? (Nat.pow 10 exponent) 1

end Binary64

end Redirect.Decimal
