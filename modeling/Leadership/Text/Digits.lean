/-!
# Digits

Numbers as runs of digit characters, in any base up to sixteen.  A run is read
with letters of either case and is written with lower-case ones.
-/

namespace Leadership.Text

/-- The value of a digit character; letters count from ten. -/
def digitValue (character : Char) : Nat :=
  if character.isDigit then
    character.toNat - '0'.toNat
  else if 'a' ≤ character ∧ character ≤ 'f' then
    character.toNat - 'a'.toNat + 10
  else if 'A' ≤ character ∧ character ≤ 'F' then
    character.toNat - 'A'.toNat + 10
  else
    16

/-- Whether a character is a digit of the given base. -/
def isDigitOf (base : Nat) (character : Char) : Bool :=
  digitValue character < base

/-- The number that a run of digits stands for. -/
def ofDigits (base : Nat) (digits : List Char) : Nat :=
  digits.foldl (fun value digit => value * base + digitValue digit) 0

/-- The longest run of digits at the front of a text, and what follows it. -/
def spanDigits (base : Nat) (text : List Char) : List Char × List Char :=
  (text.takeWhile (isDigitOf base), text.dropWhile (isDigitOf base))

/-- The digits of a number, without leading zeros. -/
def digitsOf (base number : Nat) : List Char :=
  Nat.toDigits base number

/-- At least `width` digits, filled up with zeros in front. -/
def paddedDigits (base width number : Nat) : List Char :=
  let digits := digitsOf base number
  List.replicate (width - digits.length) '0' ++ digits

/-- The number of hexadecimal digits in a run of known length, if all are such digits. -/
def hexNumber? (digits : List Char) : Option Nat :=
  if digits.all (isDigitOf 16) then some (ofDigits 16 digits) else none

end Leadership.Text
