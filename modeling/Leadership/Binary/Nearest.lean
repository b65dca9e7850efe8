/-!
# Numbers with a binary point

The magnitudes of double precision: a significand below `2 ^ 53` times a power
of two that is at least `2 ^ -1074`.  `Magnitude.nearest` rounds a quotient of
natural numbers to the nearest such magnitude, a tie going to the even
significand.
-/

namespace Leadership.Binary

/-- The value `significand * 2 ^ exponent`. -/
structure Magnitude where
  significand : Nat
  exponent : Int
deriving DecidableEq

/-- The quotient rounded to a whole number, a half going to the even neighbour. -/
def roundHalfEven (numerator denominator : Nat) : Nat :=
  let whole := numerator / denominator
  let rest := 2 * (numerator % denominator)
  if rest < denominator then whole
  else if denominator < rest then whole + 1
  else whole + whole % 2

namespace Magnitude

def zero : Magnitude :=
  ⟨0, 0⟩

/-- The least exponent of a magnitude. -/
def leastExponent : Int := -1074

/-- The greatest exponent of a magnitude with a full significand. -/
def greatestExponent : Int := 971

/-- The number above the line when the magnitude is written as a fraction. -/
def numerator (magnitude : Magnitude) : Nat :=
  magnitude.significand * Nat.pow 2 magnitude.exponent.toNat

/-- The power of two below the line when the magnitude is written as a fraction. -/
def denominator (magnitude : Magnitude) : Nat :=
  Nat.pow 2 (-magnitude.exponent).toNat

/--
The nearest magnitude to a quotient, or none if it lies beyond the greatest.
The first candidate exponent leaves 53 or 54 bits before the point; in the
latter case, or when rounding carries, the next exponent is the right one.
-/
def nearest (numerator denominator : Nat) : Option Magnitude :=
  if numerator = 0 then
    some zero
  else
    let leading : Int := (numerator.log2 : Int) - (denominator.log2 : Int)
    let rounded (exponent : Int) : Magnitude :=
      ⟨roundHalfEven (numerator * Nat.pow 2 (-exponent).toNat)
        (denominator * Nat.pow 2 exponent.toNat), exponent⟩
    let first := rounded (max (leading - 53) leastExponent)
    let chosen := if first.significand < Nat.pow 2 53 then first else rounded (first.exponent + 1)
    let normal : Magnitude :=
      if chosen.significand < Nat.pow 2 53 then chosen
      else ⟨Nat.pow 2 52, chosen.exponent + 1⟩
    if normal.significand = 0 then some zero
    else if greatestExponent < normal.exponent then none
    else some normal

/-- The rounded product of two magnitudes. -/
def mul? (left right : Magnitude) : Option Magnitude :=
  nearest (left.numerator * right.numerator) (left.denominator * right.denominator)

/-- The rounded quotient of two magnitudes, the second not being zero. -/
def div? (left right : Magnitude) : Option Magnitude :=
  nearest (left.numerator * right.denominator) (left.denominator * right.numerator)

/-- The magnitude nearest to a power of ten. -/
def powerOfTen (exponent : Nat) : Magnitude :=
  (nearest (Nat.pow 10 exponent) 1).getD zero

end Magnitude

end Leadership.Binary
