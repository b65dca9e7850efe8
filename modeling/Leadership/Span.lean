/-!
# Spans of time

A span is an exact number of nanoseconds whose whole seconds fit a 64-bit word.
It is built from whole seconds and any number of further nanoseconds, which
carry into the seconds, and it is written in the largest unit of which it holds
at least one.
-/

namespace Leadership

/-- Nanoseconds in a second. -/
def secondLength : Nat := 1000000000

/-- The first number of nanoseconds that is too long for a span. -/
def spanLimit : Nat := UInt64.size * secondLength

/-- A length of time, exact to the nanosecond. -/
structure Span where
  nanoseconds : Nat
  inRange : nanoseconds < spanLimit
deriving DecidableEq

namespace Span

theorem nanoseconds_inj {left right : Span} :
    left.nanoseconds = right.nanoseconds ↔ left = right := by
  cases left
  cases right
  rw [Span.mk.injEq]

/-- The span of some whole seconds and further nanoseconds, unless it is too long. -/
def ofParts? (seconds nanoseconds : Nat) : Option Span :=
  if fits : seconds * secondLength + nanoseconds < spanLimit then
    some ⟨seconds * secondLength + nanoseconds, fits⟩
  else
    none

/-- A number of milliseconds below `2 ^ 64`. -/
def ofMilliseconds (count : Nat) (small : count < UInt64.size := by decide) : Span :=
  ⟨count * 1000000, by simp only [spanLimit, secondLength]; omega⟩

def seconds (span : Span) : Nat :=
  span.nanoseconds / secondLength

/-- The nanoseconds beyond the whole seconds. -/
def subsecond (span : Span) : Nat :=
  span.nanoseconds % secondLength

theorem seconds_lt (span : Span) : span.seconds < UInt64.size := by
  have bound := span.inRange
  simp only [seconds, spanLimit, secondLength] at *
  omega

theorem subsecond_lt (span : Span) : span.subsecond < secondLength :=
  Nat.mod_lt _ (by decide)

theorem seconds_add_subsecond (span : Span) :
    span.seconds * secondLength + span.subsecond = span.nanoseconds :=
  Nat.div_add_mod' _ _

@[simp]
theorem ofParts?_parts (span : Span) :
    ofParts? span.seconds span.subsecond = some span := by
  simp [ofParts?, span.seconds_add_subsecond, span.inRange]

/-- The digits of a fraction with a given number of places, trailing zeros left out. -/
def fractionDigits (places fraction : Nat) : List Char :=
  let digits := Nat.toDigits 10 fraction
  let padded := List.replicate (places - digits.length) '0' ++ digits
  (padded.reverse.dropWhile (· == '0')).reverse

/-- A count of a unit of `10 ^ places` nanoseconds, with as much fraction as is needed. -/
def inUnit (nanoseconds places : Nat) : String :=
  let whole := (nanoseconds / Nat.pow 10 places).repr
  match nanoseconds % Nat.pow 10 places with
  | 0 => whole
  | fraction => whole ++ "." ++ String.ofList (fractionDigits places fraction)

/--
The exact length in the largest of seconds, milliseconds, microseconds and
nanoseconds with a nonzero whole part.
-/
def text (span : Span) : String :=
  if secondLength ≤ span.nanoseconds then
    inUnit span.nanoseconds 9 ++ "s"
  else if 1000000 ≤ span.nanoseconds then
    inUnit span.nanoseconds 6 ++ "ms"
  else if 1000 ≤ span.nanoseconds then
    inUnit span.nanoseconds 3 ++ "µs"
  else
    inUnit span.nanoseconds 0 ++ "ns"

instance : LE Span where
  le left right := left.nanoseconds ≤ right.nanoseconds

instance : LT Span where
  lt left right := left.nanoseconds < right.nanoseconds

instance (left right : Span) : Decidable (left ≤ right) :=
  inferInstanceAs (Decidable (left.nanoseconds ≤ right.nanoseconds))

instance (left right : Span) : Decidable (left < right) :=
  inferInstanceAs (Decidable (left.nanoseconds < right.nanoseconds))

end Span

end Leadership
