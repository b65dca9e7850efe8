import Leadership.Decimal.Shortest

/-!
# How decimals are written

A style says which decimals are written without an exponent.  Every number keeps
at least one digit after its point when it is written that way; with an exponent,
a single digit stands alone and the exponent has its sign.
-/

namespace Leadership.Decimal

/-- The choices that a format makes for floating point text. -/
structure Style where
  tie : Tie
  /-- The exponents of the first digit that are written in place; all, if there is no range. -/
  inPlace : Option (Int × Int)

namespace Style

/-- Numbers of a data exchange text: an exponent from `10 ^ 16` on and below `10 ^ -5`. -/
def exchange : Style :=
  ⟨.toEven, some (-5, 15)⟩

/-- Numbers of a configuration file: never an exponent. -/
def plain : Style :=
  ⟨.upward, none⟩

end Style

/-- Digits with the point where the exponent puts it. -/
def Numeral.inPlace (numeral : Numeral) : List Char :=
  let digits := Nat.toDigits 10 numeral.digits
  if 0 ≤ numeral.exponent then
    digits ++ List.replicate numeral.exponent.toNat '0' ++ ['.', '0']
  else
    let places := (-numeral.exponent).toNat
    let padded := List.replicate (places + 1 - digits.length) '0' ++ digits
    padded.take (padded.length - places) ++ '.' :: padded.drop (padded.length - places)

/-- One digit before the point and an exponent behind. -/
def Numeral.scientific (numeral : Numeral) : List Char :=
  let exponent := numeral.leadingExponent
  let sign := if 0 ≤ exponent then '+' else '-'
  let mantissa := match Nat.toDigits 10 numeral.digits with
    | first :: second :: rest => first :: '.' :: second :: rest
    | digits => digits
  mantissa ++ 'e' :: sign :: Nat.toDigits 10 exponent.natAbs

/-- The text of a number of the given sign. -/
def Style.write (style : Style) (negative : Bool) (magnitude : Binary.Magnitude) : String :=
  let numeral := shortest style.tie magnitude
  let leading := numeral.leadingExponent
  let placed := match style.inPlace with
    | none => true
    | some (least, greatest) => decide (least ≤ leading ∧ leading ≤ greatest)
  let body := if placed then numeral.inPlace else numeral.scientific
  String.ofList (if negative then '-' :: body else body)

end Leadership.Decimal
