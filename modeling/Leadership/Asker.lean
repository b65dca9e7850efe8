import Leadership.Event

/-!
# Askers

Whoever needs to know the leader asks, and depends on nothing but the answers.
An asker may change a state with every question.  It may also be reached through
references of several kinds, one in another, each of which passes a question on
and does nothing else.
-/

namespace Leadership

/-- Something that can be asked who leads, with the state that questions change. -/
abbrev Asker (state : Type) := state → Answer × List Event × state

/-- The kinds of references through which an asker may be reached. -/
inductive Reference where
  | borrowed
  | owned
  | shared
deriving DecidableEq

namespace Asker

variable {state : Type}

/-- An asker behind references, the outermost of them first. -/
def through : List Reference → Asker state → Asker state
  | [], ask => ask
  | _ :: inner, ask => fun current => through inner ask current

@[simp]
theorem through_eq (references : List Reference) (ask : Asker state) :
    through references ask = ask := by
  induction references with
  | nil => rfl
  | cons _ inner unchanged => simp [through, unchanged]

end Asker

end Leadership
