import Leadership.Proofs.Wait.Outcome
import Mathlib.Data.List.Range

/-!
# What a wait is told

Of an asker a wait sees nothing but what it is told: the answers one after the
other, each with what is reported about it.  Whoever tells the same leads to the
same outcome with the same number of questions, so that a wait is determined by
what it has taken.
-/

namespace Leadership

/-- What is told in reply to one question: the answer, and what is reported about it. -/
abbrev Telling := Answer × List Event

namespace Asker

variable {state : Type} (ask : Asker state)

/-- What is told in reply to some questions, one after the other. -/
def tellings (current : state) (count : Nat) : List Telling :=
  (List.range count).map fun number => (ask.answerAt current number, ask.eventsAt current number)

@[simp]
theorem length_tellings (current : state) (count : Nat) :
    (ask.tellings current count).length = count := by
  rw [tellings, List.length_map, List.length_range]

theorem tellings_one (current : state) :
    ask.tellings current 1 = [((ask current).1, (ask current).2.1)] :=
  rfl

/-- The last of some questions. -/
theorem tellings_succ (current : state) (count : Nat) :
    ask.tellings current (count + 1) =
      ask.tellings current count ++ [(ask.answerAt current count, ask.eventsAt current count)] := by
  rw [tellings, List.range_succ, List.map_append]
  rfl

/-- Questions that follow others begin in the state that these lead to. -/
theorem tellings_add (current : state) (earlier later : Nat) :
    ask.tellings current (earlier + later) =
      ask.tellings current earlier ++ ask.tellings (ask.stateAt current earlier) later := by
  rw [tellings, List.range_add, List.map_append, List.map_map]
  simp only [tellings, Function.comp_def, answerAt, eventsAt, stateAt_add]

/-- What holds of all that is told holds of the reply to each question. -/
theorem forall_mem_tellings {current : state} {count : Nat} {good : Telling → Prop} :
    (∀ telling ∈ ask.tellings current count, good telling) ↔
      ∀ number < count, good (ask.answerAt current number, ask.eventsAt current number) := by
  simp only [tellings, List.mem_map, List.mem_range, forall_exists_index, and_imp,
    forall_apply_eq_imp_iff₂]

end Asker

namespace Wait

variable {state : Type}

/-- Everything reported before the last question: what is told, and a line for each pause. -/
def pausedLines (earlier : List Telling) : List Event :=
  earlier.flatMap fun telling => telling.2 ++ pauseLine telling.1

theorem pausedLines_tellings (ask : Asker state) (current : state) (pauses : Nat) :
    pausedLines (ask.tellings current pauses) = pausedReport ask current pauses := by
  rw [pausedReport, pausedLines, Asker.tellings, List.flatMap_map]

/--
What a wait takes and makes of it: the tellings, the ending, the time spent and
what is reported.  There is one way for each kind of ending.
-/
inductive Polled (patience : Patience) (unpaused : Nat) :
    List Telling → Ending → Nat → List Event → Prop where
  /-- The deadline is not on the clock, and nothing is asked. -/
  | hidden (beyond : overflowsClock patience.timeout.nanoseconds) :
      Polled patience unpaused [] .clockOverflow 0 []
  /-- Faults that another question may mend, with time for a pause, and a telling that ends it. -/
  | ended {earlier : List Telling} {last : Telling} {ending : Ending}
      (shown : overflowsClock patience.timeout.nanoseconds = false)
      (enough : earlier.length < patience.mostQuestions unpaused)
      (unsettled : ∀ telling ∈ earlier, ¬telling.1.settles)
      (early : ∀ number < earlier.length,
        number * patience.pauseTaken + patience.pause.nanoseconds ≤ patience.timeout.nanoseconds)
      (ends : judge patience (earlier.length * patience.pauseTaken) last.1 = .ends ending) :
      Polled patience unpaused (earlier ++ [last]) ending (earlier.length * patience.pauseTaken)
        (pausedLines earlier ++ last.2)
  /-- Without pauses time stands still, and nothing ends the wait. -/
  | unfinished {taken : List Telling}
      (shown : overflowsClock patience.timeout.nanoseconds = false)
      (unpausing : patience.pause.nanoseconds = 0) (counted : taken.length = unpaused)
      (unsettled : ∀ telling ∈ taken, ¬telling.1.settles) :
      Polled patience unpaused taken .unfinished 0 (pausedLines taken)

variable {patience : Patience} {unpaused : Nat}

/-- Without pauses a wait that nothing settles asks all that it may. -/
theorem run_of_unpausing {ask : Asker state} {current : state}
    (shown : overflowsClock patience.timeout.nanoseconds = false)
    (unpausing : patience.pause.nanoseconds = 0)
    (unsettled : ∀ number < unpaused, ¬(ask.answerAt current number).settles) :
    run ask patience unpaused current =
      ⟨.unfinished, 0, unpaused, pausedReport ask current unpaused,
        ask.stateAt current unpaused⟩ := by
  have taken := Patience.pauseTaken_of_unpausing unpausing
  have continued : ∀ number < unpaused, ∃ fault, ask.answerAt current number = .error fault ∧
      judge patience (0 + number * patience.pauseTaken) (.error fault) = .goesOn fault :=
    fun number before =>
      judge_of_early shown (Patience.add_pause_of_unpausing unpausing number)
        (unsettled number before)
  have rest := asking_of_goesOn 0 0 0 [] current continued
  rw [run, shown, if_neg Bool.false_ne_true, Patience.mostQuestions, if_pos taken,
    ← Nat.add_zero unpaused, rest]
  simp [asking, taken]

theorem polled_of_ended {ask : Asker state} {current : state} {ending : Ending} {number : Nat}
    (shown : overflowsClock patience.timeout.nanoseconds = false)
    (enough : number < patience.mostQuestions unpaused)
    (unsettled : ∀ earlier < number, ¬(ask.answerAt current earlier).settles)
    (early : ∀ earlier < number,
      earlier * patience.pauseTaken + patience.pause.nanoseconds ≤ patience.timeout.nanoseconds)
    (ends : judge patience (number * patience.pauseTaken) (ask.answerAt current number) =
      .ends ending) :
    Polled patience unpaused (ask.tellings current (number + 1)) ending
      (number * patience.pauseTaken) (report ask current number) := by
  have counted := ask.length_tellings current number
  let last : Telling := (ask.answerAt current number, ask.eventsAt current number)
  have polled : Polled patience unpaused (ask.tellings current number ++ [last]) ending
      ((ask.tellings current number).length * patience.pauseTaken)
      (pausedLines (ask.tellings current number) ++ last.2) := by
    apply Polled.ended shown
    · rwa [counted]
    · exact ask.forall_mem_tellings.mpr unsettled
    · rwa [counted]
    · rwa [counted]
  rwa [counted, pausedLines_tellings, ← ask.tellings_succ] at polled

theorem exists_polled_of_unpausing (unpaused : Nat) (ask : Asker state) (current : state)
    (shown : overflowsClock patience.timeout.nanoseconds = false)
    (unpausing : patience.pause.nanoseconds = 0) :
    ∃ count ending elapsed events,
      Polled patience unpaused (ask.tellings current count) ending elapsed events := by
  obtain ⟨number, inTime, unsettled, first⟩ := exists_first ask current unpaused
  rcases Nat.lt_or_eq_of_le inTime with before | rfl
  · have settles := first.resolve_right (Nat.ne_of_lt before)
    have enough : number < patience.mostQuestions unpaused := by
      rwa [Patience.mostQuestions, if_pos (Patience.pauseTaken_of_unpausing unpausing)]
    exact ⟨_, _, _, _, polled_of_ended shown enough unsettled
      (fun earlier _ => Patience.add_pause_of_unpausing unpausing earlier)
      (judge_of_settles settles)⟩
  · refine ⟨number, _, _, _, .unfinished shown unpausing (ask.length_tellings _ _) ?_⟩
    exact ask.forall_mem_tellings.mpr unsettled

theorem exists_polled_of_pausing (unpaused : Nat) (ask : Asker state) (current : state)
    (shown : overflowsClock patience.timeout.nanoseconds = false)
    (pausing : 0 < patience.pause.nanoseconds) :
    ∃ count ending elapsed events,
      Polled patience unpaused (ask.tellings current count) ending elapsed events := by
  obtain ⟨number, inTime, unsettled, first⟩ := exists_first ask current patience.pauses
  have enough := Nat.lt_of_le_of_lt inTime (Patience.pauses_lt_mostQuestions pausing unpaused)
  have early : ∀ earlier < number,
      earlier * patience.pauseTaken + patience.pause.nanoseconds ≤
        patience.timeout.nanoseconds :=
    fun earlier before => Patience.add_pause_le_timeout (Nat.lt_of_lt_of_le before inTime)
  by_cases settles : (ask.answerAt current number).settles
  · exact ⟨_, _, _, _, polled_of_ended shown enough unsettled early (judge_of_settles settles)⟩
  · obtain rfl : number = patience.pauses := first.resolve_left settles
    obtain ⟨fault, answered, again⟩ := Answer.not_settles settles
    have ends := judge_of_late again pausing
    rw [← answered] at ends
    exact ⟨_, _, _, _, polled_of_ended shown enough unsettled early ends⟩

/-- There is a way for every wait. -/
theorem exists_polled (patience : Patience) (unpaused : Nat) (ask : Asker state)
    (current : state) :
    ∃ count ending elapsed events,
      Polled patience unpaused (ask.tellings current count) ending elapsed events := by
  cases shown : overflowsClock patience.timeout.nanoseconds with
  | true => exact ⟨0, _, _, _, .hidden shown⟩
  | false =>
      rcases Nat.eq_zero_or_pos patience.pause.nanoseconds with unpausing | pausing
      · exact exists_polled_of_unpausing unpaused ask current shown unpausing
      · exact exists_polled_of_pausing unpaused ask current shown pausing

/-- Whoever tells what a wait has taken leads to what the wait has made of it. -/
theorem Polled.run {taken : List Telling} {ending : Ending} {elapsed : Nat} {events : List Event}
    (polled : Polled patience unpaused taken ending elapsed events) (ask : Asker state)
    (current : state) (tells : ask.tellings current taken.length = taken) :
    run ask patience unpaused current =
      ⟨ending, elapsed, taken.length, events, ask.stateAt current taken.length⟩ := by
  cases polled with
  | hidden beyond => exact if_pos beyond
  | @ended earlier last ending shown enough unsettled early ends =>
      rw [List.length_append, List.length_singleton] at tells ⊢
      rw [ask.tellings_succ] at tells
      obtain ⟨before, told⟩ := List.append_inj tells (ask.length_tellings _ _)
      obtain rfl := List.head_eq_of_cons_eq told
      have silent := ask.forall_mem_tellings.mp (before.symm ▸ unsettled)
      rw [run_of_ended shown early enough silent ends, report_eq, ← pausedLines_tellings, before]
  | unfinished shown unpausing counted unsettled =>
      have silent := ask.forall_mem_tellings.mp (tells.symm ▸ unsettled)
      rw [counted] at tells silent ⊢
      rw [run_of_unpausing shown unpausing silent, ← pausedLines_tellings, tells]

end Wait

end Leadership
