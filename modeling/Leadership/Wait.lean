import Leadership.Asker
import Leadership.Config

/-!
# Waiting for a leader

A wait asks at once and then after every pause until somebody leads, until a
question fails for good, or until another pause would pass the deadline.  Time is
what the pauses add up to; questions take none.  A pause lasts thirty years at
most, however long it was to be.

The clock ends `2 ^ 63 - 1` seconds after the start of a wait.  A deadline that it
cannot show ends the wait without an answer before the first question, and a pause
that would pass the end of the clock does so after a question that failed.
-/

namespace Leadership

/-- How a wait ends. -/
inductive Ending where
  | answered (answer : Answer)
  | clockOverflow
  /-- The wait would go on, but no further question was allowed. -/
  | unfinished

/-- What became of a wait. -/
structure Waited (state : Type) where
  ending : Ending
  /-- The nanoseconds spent in pauses. -/
  elapsed : Nat
  /-- The number of questions asked. -/
  asked : Nat
  events : List Event
  state : state

/-- Whether the clock ends before so many nanoseconds after the start of a wait. -/
def overflowsClock (time : Nat) : Bool :=
  (Nat.pow 2 63 - 1) * secondLength ≤ time

/-- The text of a clock that cannot be moved so far. -/
def clockOverflowMessage : String :=
  "overflow when adding duration to instant"

/-- The nanoseconds of the longest pause, thirty years of 365 days. -/
def longestPause : Nat :=
  30 * 365 * 24 * 60 * 60 * secondLength

namespace Patience

/-- The fault of a wait that ends at its deadline with a question that failed. -/
def timeoutFault (patience : Patience) (last : Fault) : Fault :=
  .timeout ("no leader after " ++ patience.timeout.text ++ ": " ++ last.message)

/--
The nanoseconds that a pause really lasts, on a clock that is taken to be exact below
a millisecond too.  A clock that ticks in whole milliseconds may stretch a pause that
is no number of them; one that is lasts as long on either.
-/
def pauseTaken (patience : Patience) : Nat :=
  min patience.pause.nanoseconds longestPause

theorem pauseTaken_of_le {patience : Patience} (short : patience.pause.nanoseconds ≤ longestPause) :
    patience.pauseTaken = patience.pause.nanoseconds :=
  Nat.min_eq_left short

/--
The most questions that a wait may ask.  Pauses of some length exhaust the
timeout; without them `unpaused` is the bound.
-/
def mostQuestions (patience : Patience) (unpaused : Nat) : Nat :=
  if patience.pauseTaken = 0 then unpaused
  else patience.timeout.nanoseconds / patience.pauseTaken + 1

end Patience

namespace Wait

variable {state : Type}

/-- What an answer means for a wait at some time after its start. -/
inductive Verdict where
  | ends (ending : Ending)
  /-- The question failed with a fault, and is asked again after a pause. -/
  | goesOn (fault : Fault)

def judge (patience : Patience) (elapsed : Nat) : Answer → Verdict
  | .ok leader => .ends (.answered (.ok leader))
  | .error fault =>
      if !fault.retryable then
        .ends (.answered (.error fault))
      else if overflowsClock (elapsed + patience.pause.nanoseconds) then
        .ends .clockOverflow
      else if patience.timeout.nanoseconds < elapsed + patience.pause.nanoseconds then
        .ends (.answered (.error (patience.timeoutFault fault)))
      else
        .goesOn fault

/-- The rest of a wait.  Its events so far are kept in reverse. -/
def asking (ask : Asker state) (patience : Patience) :
    (questions : Nat) → (elapsed asked : Nat) → (reversed : List Event) → state → Waited state
  | 0, elapsed, asked, reversed, current =>
      ⟨.unfinished, elapsed, asked, reversed.reverse, current⟩
  | questions + 1, elapsed, asked, reversed, current =>
      let (answer, events, next) := ask current
      let reversed := events.reverse ++ reversed
      match judge patience elapsed answer with
      | .ends ending => ⟨ending, elapsed, asked + 1, reversed.reverse, next⟩
      | .goesOn fault =>
          asking ask patience questions (elapsed + patience.pauseTaken) (asked + 1)
            (.stillWaiting fault.message :: reversed) next

/-- One more question ends a wait or leads to a pause and the rest of the wait. -/
theorem asking_succ (ask : Asker state) (patience : Patience)
    (questions elapsed asked : Nat) (reversed : List Event) (current : state) :
    asking ask patience (questions + 1) elapsed asked reversed current =
      match judge patience elapsed (ask current).1 with
      | .ends ending =>
          ⟨ending, elapsed, asked + 1, ((ask current).2.1.reverse ++ reversed).reverse,
            (ask current).2.2⟩
      | .goesOn fault =>
          asking ask patience questions (elapsed + patience.pauseTaken) (asked + 1)
            (.stillWaiting fault.message :: ((ask current).2.1.reverse ++ reversed))
            (ask current).2.2 :=
  rfl

/-- A whole wait.  `unpaused` bounds the questions of a wait without pauses. -/
def run (ask : Asker state) (patience : Patience) (unpaused : Nat) (current : state) :
    Waited state :=
  if overflowsClock patience.timeout.nanoseconds then
    ⟨.clockOverflow, 0, 0, [], current⟩
  else
    asking ask patience (patience.mostQuestions unpaused) 0 0 [] current

end Wait

end Leadership
