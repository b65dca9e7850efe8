import Leadership.Proofs.Fleet.History

/-!
# Schedules of hosts

Hosts do things to their engines while time passes, each at some instant and any
number of them at one.  A fleet at an instant is what everything scheduled up to
then has made of it; from one instant to a later one it changes by what is
scheduled in between, and by nothing else.
-/

namespace Leadership

/-- What hosts do to the engines of a fleet, with the nanoseconds after which they do it. -/
structure Schedule where
  entries : List (Nat × Berth × Deed)
  ordered : entries.Pairwise fun earlier later => earlier.1 ≤ later.1

namespace Fleet

/-- The fleet after some deeds, one after the other. -/
def enactAll (entries : List (Nat × Berth × Deed)) (fleet : Fleet) : Fleet :=
  entries.foldl (fun fleet entry => fleet.enact entry.2.1 entry.2.2) fleet

theorem enactAll_append (earlier later : List (Nat × Berth × Deed)) (fleet : Fleet) :
    fleet.enactAll (earlier ++ later) = (fleet.enactAll earlier).enactAll later :=
  List.foldl_append

end Fleet

namespace Schedule

variable (schedule : Schedule)

/-- What is scheduled for the time after an instant, up to another one. -/
def between (earlier later : Nat) : List (Nat × Berth × Deed) :=
  schedule.entries.filter fun entry => earlier < entry.1 ∧ entry.1 ≤ later

/-- The fleet at an instant, when everything scheduled for that instant has been done. -/
def fleetAt (fleet : Fleet) (instant : Nat) : Fleet :=
  fleet.enactAll (schedule.entries.filter fun entry => entry.1 ≤ instant)

/-- In the order of time, what is scheduled up to an instant comes before what is behind it. -/
theorem filter_append_between {earlier later : Nat} (before : earlier ≤ later) :
    (schedule.entries.filter fun entry => entry.1 ≤ earlier) ++ schedule.between earlier later =
      schedule.entries.filter fun entry => entry.1 ≤ later := by
  obtain ⟨entries, ordered⟩ := schedule
  rw [between]
  induction entries with
  | nil => rfl
  | cons entry entries induction =>
      obtain ⟨first, rest⟩ := List.pairwise_cons.mp ordered
      by_cases due : entry.1 ≤ earlier
      · have dueLater : entry.1 ≤ later := Nat.le_trans due before
        simp only [List.filter_cons, due, dueLater, Nat.not_lt_of_le due, false_and, decide_true,
          decide_false, if_true, Bool.false_eq_true, if_false, List.cons_append]
        rw [induction rest]
      · -- Nothing that comes behind an entry that is not yet due is due either.
        have none : (entries.filter fun other => other.1 ≤ earlier) = [] := by
          rw [List.filter_eq_nil_iff]
          intro other isOther
          have behind := first other isOther
          simp only [decide_eq_true_eq]
          omega
        have rests := induction rest
        simp only [none, List.nil_append] at rests
        simp only [List.filter_cons, due, Nat.lt_of_not_le due, true_and, decide_false,
          Bool.false_eq_true, if_false, none, List.nil_append, rests]

/-- As time passes, a fleet changes by what is scheduled meanwhile. -/
theorem fleetAt_later (fleet : Fleet) {earlier later : Nat} (before : earlier ≤ later) :
    schedule.fleetAt fleet later =
      (schedule.fleetAt fleet earlier).enactAll (schedule.between earlier later) := by
  rw [fleetAt, fleetAt, ← Fleet.enactAll_append, schedule.filter_append_between before]

/-- A fleet stays as it is while hosts do nothing. -/
theorem fleetAt_of_idle (fleet : Fleet) {earlier later : Nat} (before : earlier ≤ later)
    (idle : schedule.between earlier later = []) :
    schedule.fleetAt fleet later = schedule.fleetAt fleet earlier := by
  rw [schedule.fleetAt_later fleet before, idle]
  rfl

end Schedule

end Leadership
