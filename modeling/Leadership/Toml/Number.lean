import Leadership.Decimal.Style
import Leadership.Text.Digits
import Leadership.Tree

/-!
# Numbers in TOML text

Integers have 64 bits with a sign and may be written in four bases; single
underscores may stand between digits.  A floating point number is rounded to the
nearest double.  A positive one beyond all doubles is no number, and a negative
one is negative infinity.
-/

namespace Leadership.Toml

open Leadership.Text Leadership.Binary

/--
A run of digits with single underscores between them, which are left out.
`entered` tells that a digit stands right before the text.
-/
def readRun (base : Nat) : (entered : Bool) → List Char → Option (List Char × List Char)
  | true, [] => some ([], [])
  | false, [] => none
  | entered, character :: rest =>
      if isDigitOf base character then
        (readRun base true rest).map (fun (digits, rest) => (character :: digits, rest))
      else if entered && character = '_' then
        readRun base false rest
      else if entered then
        some ([], character :: rest)
      else
        none

/-- The greatest integer. -/
def greatestInt : Nat := Nat.pow 2 63 - 1

/-- An integer without sign in a base with a mark of its own. -/
def readMarked (base : Nat) (text : List Char) : Option (Tree Empty × List Char) := do
  let (digits, rest) ← readRun base false text
  if ofDigits base digits ≤ greatestInt then
    return (.int (ofDigits base digits), rest)
  else
    none

/-- The text of a floating point number, `digits * 10 ^ exponent`, unless it has no value. -/
def floatText? (negative : Bool) (digits : List Char) (exponent : Int) : Option String :=
  let significant := digits.dropWhile (· == '0')
  let magnitude :=
    if significant.isEmpty || exponent + significant.length < -400 then
      some .zero
    else if 400 < exponent + significant.length then
      none
    else
      Magnitude.nearest (ofDigits 10 significant * Nat.pow 10 exponent.toNat)
        (Nat.pow 10 (-exponent).toNat)
  match magnitude with
  | some magnitude => some (Decimal.Style.plain.write negative magnitude)
  | none => if negative then some "-inf" else none

/-- The sign of a number; a plus sign means nothing. -/
def readSign : List Char → Option Bool × List Char
  | '-' :: rest => (some true, rest)
  | '+' :: rest => (some false, rest)
  | text => (none, text)

/-- The fraction of a number: a point with at least one digit. -/
def readFraction : List Char → Option (Option (List Char) × List Char)
  | '.' :: rest => (readRun 10 false rest).map (fun (digits, rest) => (some digits, rest))
  | text => some (none, text)

/-- The exponent of a number. -/
def readExponent : List Char → Option (Option Int × List Char)
  | mark :: rest =>
      if mark = 'e' ∨ mark = 'E' then do
        let (sign, rest) := readSign rest
        let (digits, rest) ← readRun 10 false rest
        let size : Int := ofDigits 10 digits
        return (some (if sign = some true then -size else size), rest)
      else
        some (none, mark :: rest)
  | [] => some (none, [])

/-- A number in decimal digits behind its sign.  Only a lone zero may start with zero. -/
def readDecimal (negative : Bool) (text : List Char) : Option (Tree Empty × List Char) := do
  let (whole, rest) ← readRun 10 false text
  if whole.head? = some '0' ∧ 1 < whole.length then
    none
  else
    let (fraction, rest) ← readFraction rest
    let (exponent, rest) ← readExponent rest
    if fraction.isNone ∧ exponent.isNone then
      let size := ofDigits 10 whole
      if negative then
        if size ≤ greatestInt + 1 then return (.int (-size), rest) else none
      else
        if size ≤ greatestInt then return (.int size, rest) else none
    else
      let places := fraction.getD []
      let text ← floatText? negative (whole ++ places) (exponent.getD 0 - places.length)
      return (.float text, rest)

/-- Infinity and the number that is none. -/
def readSpecial (negative : Bool) : List Char → Option (Tree Empty × List Char)
  | 'i' :: 'n' :: 'f' :: rest => some (.float (if negative then "-inf" else "inf"), rest)
  | 'n' :: 'a' :: 'n' :: rest => some (.float "NaN", rest)
  | _ => none

def readNumber : List Char → Option (Tree Empty × List Char)
  | '0' :: 'x' :: rest => readMarked 16 rest
  | '0' :: 'o' :: rest => readMarked 8 rest
  | '0' :: 'b' :: rest => readMarked 2 rest
  | text =>
      let (sign, rest) := readSign text
      let negative := sign.getD false
      readSpecial negative rest <|> readDecimal negative rest

end Leadership.Toml
