import Leadership.Binary.Nearest

/-!
# Shortest decimals

The decimal with the fewest digits among those that round to a given magnitude,
and of those with that many digits the nearest to it.  A grid of decimals with a
fixed number of digits meets the interval of reals that round to the magnitude
only if one of the magnitude's two neighbours on that grid lies in it, so these
two are all that is looked at.
-/

namespace Leadership.Decimal

open Leadership.Binary

/-- The value `digits * 10 ^ exponent`. -/
structure Numeral where
  digits : Nat
  exponent : Int
deriving DecidableEq

namespace Numeral

/-- Moves trailing zeros of the digits into the exponent, at most `fuel` of them. -/
def trim : (fuel : Nat) → Numeral → Numeral
  | 0, numeral => numeral
  | fuel + 1, numeral =>
      if numeral.digits ≠ 0 ∧ numeral.digits % 10 = 0 then
        trim fuel ⟨numeral.digits / 10, numeral.exponent + 1⟩
      else
        numeral

/-- The exponent of the first digit. -/
def leadingExponent (numeral : Numeral) : Int :=
  numeral.exponent + (Nat.toDigits 10 numeral.digits).length - 1

end Numeral

/-- Which of two equally near decimals is taken. -/
inductive Tie where
  | toEven
  | upward
deriving DecidableEq

/-- The greatest exponent of a power of ten that does not exceed a positive quotient. -/
def floorLog10 (numerator denominator : Nat) : Int :=
  if denominator ≤ numerator then
    ((Nat.toDigits 10 (numerator / denominator)).length : Int) - 1
  else
    let below := (Nat.toDigits 10 (denominator / numerator)).length - 1
    if denominator ≤ numerator * Nat.pow 10 below then -(below : Int) else -(below + 1 : Int)

/--
The reals that round to a positive magnitude, as a fraction with common
denominator: the magnitude itself and the ends of the interval.
-/
structure Rounding where
  low : Nat
  value : Nat
  high : Nat
  denominator : Nat
  /-- Whether the ends themselves round to the magnitude. -/
  closed : Bool

/-- Below a power of two the neighbours lie half as far apart. -/
def roundingOf (magnitude : Magnitude) : Rounding :=
  let scale := Nat.pow 2 magnitude.exponent.toNat
  let narrowBelow :=
    magnitude.significand = Nat.pow 2 52 ∧ Magnitude.leastExponent < magnitude.exponent
  { low := (4 * magnitude.significand - if narrowBelow then 1 else 2) * scale
    value := 4 * magnitude.significand * scale
    high := (4 * magnitude.significand + 2) * scale
    denominator := 4 * magnitude.denominator
    closed := magnitude.significand % 2 = 0 }

/-- The decimal with `count` digits in the interval that is nearest to its magnitude. -/
def onGrid? (tie : Tie) (rounding : Rounding) (leading : Int) (count : Nat) : Option Numeral :=
  let exponent : Int := leading - count + 1
  -- Everything is compared in units of `10 ^ exponent / denominator`.
  let above := rounding.denominator * Nat.pow 10 exponent.toNat
  let stretch := Nat.pow 10 (-exponent).toNat
  let inside (digits : Nat) : Bool :=
    if rounding.closed then
      rounding.low * stretch ≤ digits * above ∧ digits * above ≤ rounding.high * stretch
    else
      rounding.low * stretch < digits * above ∧ digits * above < rounding.high * stretch
  let value := rounding.value * stretch
  let below := value / above
  let nearerBelow : Bool :=
    let twice := 2 * (value % above)
    if twice = above then tie = .toEven ∧ below % 2 = 0 else twice < above
  match inside below, inside (below + 1) with
  | true, true => some ⟨if nearerBelow then below else below + 1, exponent⟩
  | true, false => some ⟨below, exponent⟩
  | false, true => some ⟨below + 1, exponent⟩
  | false, false => none

/-- The shortest decimal that rounds to a magnitude.  Seventeen digits always suffice. -/
def shortest (tie : Tie) (magnitude : Magnitude) : Numeral :=
  if magnitude.significand = 0 then
    ⟨0, 0⟩
  else
    let rounding := roundingOf magnitude
    let leading := floorLog10 rounding.value rounding.denominator
    let counts := (List.range 17).map (· + 1)
    ((counts.findSome? (onGrid? tie rounding leading)).getD ⟨0, 0⟩).trim 20

end Leadership.Decimal
