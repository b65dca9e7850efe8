import Leadership.Text.Digits
import Leadership.Tree

/-!
# Dates and times in TOML text

A calendar date, a time of the day, or both, the latter possibly with an offset.
They are checked and then passed on as a map with a single private field.
-/

namespace Leadership.Toml

open Leadership.Text

/-- A number in exactly so many decimal digits, between two bounds. -/
def readFixed (count least greatest : Nat) (text : List Char) : Option (Nat × List Char) :=
  let digits := text.take count
  let number := ofDigits 10 digits
  if digits.length = count && digits.all (isDigitOf 10) && least ≤ number && number ≤ greatest then
    some (number, text.drop count)
  else
    none

/-- One of some characters in front. -/
def readOneOf (marks : List Char) : List Char → Option (List Char)
  | [] => none
  | character :: rest => if character ∈ marks then some rest else none

def isLeapYear (year : Nat) : Bool :=
  year % 4 = 0 && (year % 100 ≠ 0 || year % 400 = 0)

def daysIn (year month : Nat) : Nat :=
  if month = 2 then (if isLeapYear year then 29 else 28)
  else if month = 4 ∨ month = 6 ∨ month = 9 ∨ month = 11 then 30
  else 31

/-- A calendar date; the text behind it is left. -/
def readDate (text : List Char) : Option (List Char) := do
  let (year, rest) ← readFixed 4 0 9999 text
  let (month, rest) ← readOneOf ['-'] rest >>= readFixed 2 1 12
  let (_, rest) ← readOneOf ['-'] rest >>= readFixed 2 1 (daysIn year month)
  return rest

/-- The hour and the minute of a time. -/
def readClock (text : List Char) : Option (List Char) := do
  let (_, rest) ← readFixed 2 0 23 text
  let (_, rest) ← readOneOf [':'] rest >>= readFixed 2 0 59
  return rest

/-- A fraction of a second, if there is one. -/
def skipFraction : List Char → List Char
  | '.' :: rest =>
      match spanDigits 10 rest with
      | ([], _) => '.' :: rest
      | (_, rest) => rest
  | text => text

/-- A time of the day; leap seconds exist. -/
def readTime (text : List Char) : Option (List Char) := do
  let rest ← readClock text
  let (_, rest) ← readOneOf [':'] rest >>= readFixed 2 0 60
  return skipFraction rest

/-- An offset from universal time, if there is one. -/
def skipOffset (text : List Char) : List Char :=
  let offset := readOneOf ['Z', 'z'] text <|> (readOneOf ['+', '-'] text >>= readClock)
  offset.getD text

/-- A time behind a date, if there is one. -/
def skipTime (text : List Char) : List Char :=
  match readOneOf ['T', 't', ' '] text >>= readTime with
  | some rest => skipOffset rest
  | none => text

/-- The tree that stands for any date or time. -/
def moment : Tree Empty :=
  .record [("$__toml_private_datetime", .null)]

def readMoment (text : List Char) : Option (Tree Empty × List Char) :=
  ((readDate text).map skipTime <|> readTime text).map (fun rest => (moment, rest))

end Leadership.Toml
