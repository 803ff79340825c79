/-
# Shortest decimal form

A binary fraction is written with the fewest decimal digits that read back as the same
number, and of those forms with the one nearest to it. The search tries one digit, then
two, and so on: on each decimal grid only the two neighbours of the number can be the
answer. Seventeen digits always suffice.
-/

import Redirect.Decimal.Binary64

namespace Redirect.Decimal

/-- The number `digits * 10 ^ exponent`. -/
structure Scaled where
  digits : Nat
  exponent : Int
  deriving DecidableEq, Repr

namespace Binary64

/-- A whole number times a power of ten; a negative exponent counts as zero. -/
def scaleTen (n : Nat) (exponent : Int) : Nat :=
  n * Nat.pow 10 exponent.toNat

/-- The power of ten that a positive fraction reaches: the search goes down from the
exponent given, for at most as many steps as the first argument says. -/
def magnitudeFrom : Nat → Nat → Nat → Int → Int
  | 0, _, _, exponent => exponent
  | steps + 1, numerator, denominator, exponent =>
    if scaleTen denominator exponent ≤ scaleTen numerator (-exponent) then exponent
    else magnitudeFrom steps numerator denominator (exponent - 1)

/-- The greatest exponent whose power of ten is not above the positive number. -/
def magnitude (x : Binary64) : Int :=
  magnitudeFrom 640 x.numerator x.denominator 309

/-- Whether `digits * 10 ^ exponent` reads back as the number: it lies between the
midpoints to the neighbouring numbers, or on a midpoint that a tie rounds to it. -/
def readsBack (x : Binary64) (form : Scaled) : Bool :=
  let least := x.significand = leastFull ∧ leastExponent < x.exponent
  let below := 4 * x.significand - (if least then 1 else 2)
  let above := 4 * x.significand + 2
  let unit := x.exponent - 2
  let value := scaleUp (scaleTen form.digits form.exponent) (-unit)
  let scale := scaleUp (scaleTen 1 (-form.exponent)) unit
  if x.significand % 2 = 0 then below * scale ≤ value && value ≤ above * scale
  else below * scale < value && value < above * scale

/-- The distance of a decimal form from the number, in units that depend only on the
number and on the exponent of the form. -/
def distance (x : Binary64) (form : Scaled) : Nat :=
  let value := scaleTen form.digits form.exponent * x.denominator
  let exact := scaleTen x.numerator (-form.exponent)
  (value - exact) + (exact - value)

/-- The neighbour of the number on a decimal grid that reads back, the nearer one first. -/
def onGrid? (x : Binary64) (exponent : Int) : Option Scaled :=
  let floor := scaleTen x.numerator (-exponent) / scaleTen x.denominator exponent
  let low : Scaled := ⟨floor, exponent⟩
  let high : Scaled := ⟨floor + 1, exponent⟩
  let nearer := x.distance low < x.distance high ∨
    x.distance low = x.distance high ∧ floor % 2 = 0
  let candidates := if nearer then [low, high] else [high, low]
  candidates.find? x.readsBack

/-- The shortest form that reads back, for a positive number. -/
def shortest (x : Binary64) : Scaled :=
  let magnitude := x.magnitude
  ((List.range 17).findSome? fun count : Nat => x.onGrid? (magnitude - count)).getD
    ⟨x.numerator, 0⟩

end Binary64

namespace Scaled

/-- The decimal digits of the form, without zeros at the end. -/
def digitChars (form : Scaled) : List Char :=
  ((Nat.toDigits 10 form.digits).reverse.dropWhile (· == '0')).reverse

/-- The exponent of the first digit. -/
def leadingExponent (form : Scaled) : Int :=
  form.exponent + (Nat.toDigits 10 form.digits).length - 1

end Scaled

/-- How a binary fraction is written: the exponents of the first digit from
`positionalFrom` on and below `positionalTo` are written out in places, all others with
an exponent mark. -/
structure Style where
  positionalFrom : Int
  positionalTo : Int
  deriving DecidableEq, Repr

namespace Style

/-- A whole number with its sign, the sign always written. -/
def signed (n : Int) : List Char :=
  (if n < 0 then '-' else '+') :: Nat.toDigits 10 n.natAbs

/-- Digits written out in places; at least one digit stands on each side of the point. -/
def positional (digits : List Char) (exponent : Int) : List Char :=
  if exponent < 0 then
    '0' :: '.' :: (List.replicate (-exponent - 1).toNat '0' ++ digits)
  else
    let places := exponent.toNat + 1
    let whole := digits.take places ++ List.replicate (places - digits.length) '0'
    let fraction := digits.drop places
    whole ++ '.' :: (if fraction.isEmpty then ['0'] else fraction)

/-- Digits with a point after the first one, when there are more, and an exponent. -/
def withExponent (digits : List Char) (exponent : Int) : List Char :=
  let mark := 'e' :: signed exponent
  match digits with
  | [] => '0' :: mark
  | [first] => first :: mark
  | first :: rest => first :: '.' :: (rest ++ mark)

/-- The written form of a binary fraction. -/
def write (style : Style) (negative : Bool) (x : Binary64) : List Char :=
  let sign := if negative then ['-'] else []
  if x.significand = 0 then sign ++ ['0', '.', '0']
  else
    let form := x.shortest
    let exponent := form.leadingExponent
    if style.positionalFrom ≤ exponent ∧ exponent < style.positionalTo then
      sign ++ positional form.digitChars exponent
    else sign ++ withExponent form.digitChars exponent

end Style

end Redirect.Decimal
