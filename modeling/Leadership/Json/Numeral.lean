import Leadership.Decimal.Style
import Leadership.Text.Digits
import Leadership.Tree

/-!
# Numbers in JSON text

A number is scanned first, by its grammar alone, and valued afterwards.  Whole
numbers that fit a 64-bit word, or a signed one when they are negative, are
integers; all others are floating point numbers.  A floating point number is
computed in double precision from a 64-bit significand and a rounded power of
ten, and has no value when it lies beyond the greatest double.
-/

namespace Leadership.Json

open Leadership.Text Leadership.Binary

/-- The parts of a number as they are written. -/
structure Numeral where
  negative : Bool
  whole : List Char
  fraction : List Char
  /-- The sign and the digits of the exponent, if there is one. -/
  exponent : Option (Bool × List Char)
deriving DecidableEq

namespace Numeral

/-- A fraction is a point with at least one digit. -/
def scanFraction : List Char → Option (List Char × List Char)
  | '.' :: text =>
      match spanDigits 10 text with
      | ([], _) => none
      | (digits, rest) => some (digits, rest)
  | text => some ([], text)

/-- The digits of an exponent, of which there is at least one, behind its sign. -/
def scanExponentDigits (negative : Bool) (text : List Char) :
    Option (Option (Bool × List Char) × List Char) :=
  match spanDigits 10 text with
  | ([], _) => none
  | (digits, rest) => some (some (negative, digits), rest)

def scanExponent : List Char → Option (Option (Bool × List Char) × List Char)
  | 'e' :: '-' :: text | 'E' :: '-' :: text => scanExponentDigits true text
  | 'e' :: '+' :: text | 'E' :: '+' :: text => scanExponentDigits false text
  | 'e' :: text | 'E' :: text => scanExponentDigits false text
  | text => some (none, text)

/-- A number without its sign.  Only a lone zero may start with zero. -/
def scanUnsigned (negative : Bool) (text : List Char) : Option (Numeral × List Char) :=
  match spanDigits 10 text with
  | ([], _) => none
  | ('0' :: _ :: _, _) => none
  | (whole, rest) => do
      let (fraction, rest) ← scanFraction rest
      let (exponent, rest) ← scanExponent rest
      return (⟨negative, whole, fraction, exponent⟩, rest)

def scan : List Char → Option (Numeral × List Char)
  | '-' :: text => scanUnsigned true text
  | text => scanUnsigned false text

/--
Takes digits into a significand as long as it stays below `2 ^ 64`.  The digits
from the first one that does not fit are left.
-/
def absorb : Nat → List Char → Nat × List Char
  | significand, [] => (significand, [])
  | significand, digit :: digits =>
      if significand * 10 + digitValue digit < UInt64.size then
        absorb (significand * 10 + digitValue digit) digits
      else
        (significand, digit :: digits)

/-- Divides by `10 ^ 308` a number of times, or until nothing is left. -/
def shrink : (times : Nat) → Magnitude → Option Magnitude
  | 0, magnitude => some magnitude
  | times + 1, magnitude =>
      if magnitude.significand = 0 then
        some magnitude
      else
        (magnitude.div? (.powerOfTen 308)).bind (shrink times)

/--
A significand times a power of ten in double precision.  The power is rounded
too, and one below `10 ^ -308` is reached in steps.
-/
def scale (significand : Nat) (exponent : Int) : Option Magnitude := do
  let start ← Magnitude.nearest significand 1
  if start.significand = 0 then
    return start
  else if 308 < exponent then
    none
  else if 0 ≤ exponent then
    start.mul? (.powerOfTen exponent.toNat)
  else
    let below := exponent.natAbs
    let steps := (below - 1) / 308
    (← shrink steps start).div? (.powerOfTen (below - 308 * steps))

/-- The bounds between which an exponent is kept. -/
def clampExponent (exponent : Int) : Int :=
  max (-(Nat.pow 2 31 : Nat)) (min (Nat.pow 2 31 - 1 : Nat) exponent)

/-- The magnitude of a number that is not an integer, if it has one. -/
def magnitude? (numeral : Numeral) : Option Magnitude :=
  let (wholePart, spare) := absorb 0 numeral.whole
  let (significand, ignored) := absorb wholePart numeral.fraction
  let start : Int := spare.length - (numeral.fraction.length - ignored.length : Nat)
  match numeral.exponent with
  | none => scale significand start
  | some (negative, digits) =>
      let size := ofDigits 10 digits
      if Nat.pow 2 31 ≤ size then
        if significand ≠ 0 ∧ negative = false then none else some .zero
      else
        scale significand (clampExponent (if negative then start - size else start + size))

/-- The leaf that a number stands for, unless it is too large. -/
def value? {gap : Type} (numeral : Numeral) : Option (Tree gap) :=
  let number := ofDigits 10 numeral.whole
  let isWhole := numeral.fraction.isEmpty && numeral.exponent.isNone
  if isWhole && !numeral.negative && number < UInt64.size then
    some (.int number)
  else if isWhole && numeral.negative && 0 < number && number ≤ Nat.pow 2 63 then
    some (.int (-number))
  else
    numeral.magnitude?.map (fun magnitude =>
      .float (Decimal.Style.exchange.write numeral.negative magnitude))

end Numeral

end Leadership.Json
