import Leadership.Wait
import Mathlib.Tactic.SplitIfs
import Mathlib.Data.Nat.Basic

/-!
# The outcome of a wait

A wait has no counter: how often it asks follows from the clock alone.  The main
statement gives its exact outcome for every timeout, every pause and every
sequence of answers: the first answer that settles the matter if it comes in
time, and otherwise the timeout with the last fault, together with the number of
questions, the time spent and everything that is reported.

Two lemmas carry the loop: `Wait.asking_of_goesOn` leads over the pauses, and with
`Wait.asking_of_verdicts` a wait whose verdicts are known up to the one that ends
it is known altogether.
-/

namespace Leadership

/-! ## The answers of an asker -/

namespace Asker

variable {state : Type}

/-- The state after some questions. -/
def stateAt (ask : Asker state) : state → Nat → state
  | current, 0 => current
  | current, count + 1 => stateAt ask (ask current).2.2 count

/-- The answer to a question; the first has number zero. -/
def answerAt (ask : Asker state) (current : state) (number : Nat) : Answer :=
  (ask (ask.stateAt current number)).1

/-- What a question itself reports. -/
def eventsAt (ask : Asker state) (current : state) (number : Nat) : List Event :=
  (ask (ask.stateAt current number)).2.1

@[simp]
theorem answerAt_zero (ask : Asker state) (current : state) :
    ask.answerAt current 0 = (ask current).1 :=
  rfl

@[simp]
theorem eventsAt_zero (ask : Asker state) (current : state) :
    ask.eventsAt current 0 = (ask current).2.1 :=
  rfl

theorem answerAt_succ (ask : Asker state) (current : state) (number : Nat) :
    ask.answerAt current (number + 1) = ask.answerAt (ask current).2.2 number :=
  rfl

theorem eventsAt_succ (ask : Asker state) (current : state) (number : Nat) :
    ask.eventsAt current (number + 1) = ask.eventsAt (ask current).2.2 number :=
  rfl

theorem stateAt_add (ask : Asker state) (current : state) (earlier later : Nat) :
    ask.stateAt current (earlier + later) = ask.stateAt (ask.stateAt current earlier) later := by
  induction earlier generalizing current with
  | zero => rw [Nat.zero_add]; rfl
  | succ earlier induction =>
      rw [Nat.succ_add]
      exact induction (ask current).2.2

end Asker

/-- An answer that settles a wait: a leader, or a fault that another question cannot mend. -/
def Answer.settles : Answer → Bool
  | .ok _ => true
  | .error fault => !fault.retryable

theorem Answer.not_settles {answer : Answer} (unsettled : ¬answer.settles) :
    ∃ fault, answer = .error fault ∧ fault.retryable := by
  cases answer with
  | ok leader => exact absurd rfl unsettled
  | error fault => exact ⟨fault, rfl, by simpa [settles] using unsettled⟩

/-! ## Deadlines -/

namespace Patience

/--
The number of pauses of a wait that nothing settles: as long as another whole
pause fits into the timeout, there is one.
-/
def pauses (patience : Patience) : Nat :=
  if patience.timeout < patience.pause then 0
  else (patience.timeout.nanoseconds - patience.pause.nanoseconds) / patience.pauseTaken + 1

variable {patience : Patience}

theorem pauseTaken_le (patience : Patience) :
    patience.pauseTaken ≤ patience.pause.nanoseconds :=
  Nat.min_le_left _ _

theorem pauseTaken_pos (pausing : 0 < patience.pause.nanoseconds) :
    0 < patience.pauseTaken :=
  Nat.lt_min.mpr ⟨pausing, by decide⟩

theorem pauseTaken_of_unpausing (unpausing : patience.pause.nanoseconds = 0) :
    patience.pauseTaken = 0 := by
  rw [pauseTaken, unpausing, Nat.zero_min]

/-- A pause of no length always fits into the timeout. -/
theorem add_pause_of_unpausing (unpausing : patience.pause.nanoseconds = 0) (number : Nat) :
    number * patience.pauseTaken + patience.pause.nanoseconds ≤
      patience.timeout.nanoseconds := by
  rw [pauseTaken_of_unpausing unpausing, unpausing, Nat.mul_zero]
  exact Nat.zero_le _

/-- Before each pause it fits into the timeout. -/
theorem add_pause_le_timeout {number : Nat} (before : number < patience.pauses) :
    number * patience.pauseTaken + patience.pause.nanoseconds ≤
      patience.timeout.nanoseconds := by
  rw [pauses] at before
  split_ifs at before with short
  · exact absurd before (Nat.not_lt_zero _)
  · have fits : patience.pause.nanoseconds ≤ patience.timeout.nanoseconds :=
      Nat.le_of_not_lt short
    have spent : number * patience.pauseTaken ≤
        patience.timeout.nanoseconds - patience.pause.nanoseconds :=
      Nat.mul_le_of_le_div _ _ _ (Nat.le_of_lt_succ before)
    omega

/-- After the last pause no other one fits into the timeout. -/
theorem timeout_lt_add_pause (pausing : 0 < patience.pause.nanoseconds) :
    patience.timeout.nanoseconds <
      patience.pauses * patience.pauseTaken + patience.pause.nanoseconds := by
  rw [pauses]
  split_ifs with short
  · rw [Nat.zero_mul, Nat.zero_add]
    exact short
  · have beyond :
        patience.timeout.nanoseconds - patience.pause.nanoseconds <
          ((patience.timeout.nanoseconds - patience.pause.nanoseconds) /
            patience.pauseTaken + 1) * patience.pauseTaken :=
      (Nat.div_lt_iff_lt_mul (pauseTaken_pos pausing)).mp (Nat.lt_succ_self _)
    omega

theorem pauses_mul_le_timeout (patience : Patience) :
    patience.pauses * patience.pauseTaken ≤ patience.timeout.nanoseconds := by
  cases count : patience.pauses with
  | zero =>
      rw [Nat.zero_mul]
      exact Nat.zero_le _
  | succ earlier =>
      have before : earlier < patience.pauses := by omega
      have last := add_pause_le_timeout before
      have taken := patience.pauseTaken_le
      rw [Nat.succ_mul]
      omega

theorem pauses_lt_mostQuestions (pausing : 0 < patience.pause.nanoseconds) (unpaused : Nat) :
    patience.pauses < patience.mostQuestions unpaused := by
  have taken := pauseTaken_pos pausing
  rw [mostQuestions, if_neg (Nat.ne_of_gt taken), Nat.lt_succ_iff, Nat.le_div_iff_mul_le taken]
  exact patience.pauses_mul_le_timeout

/-- Where a pause lasts as long as it was to be, there are as many as fit into the timeout. -/
theorem pauses_of_le (pausing : 0 < patience.pause.nanoseconds)
    (short : patience.pause.nanoseconds ≤ longestPause) :
    patience.pauses = patience.timeout.nanoseconds / patience.pause.nanoseconds := by
  have fit := patience.pauses_mul_le_timeout
  have full := timeout_lt_add_pause pausing
  rw [pauseTaken_of_le short] at fit full
  symm
  rw [Nat.div_eq_iff pausing]
  omega

end Patience

namespace Wait

variable {state : Type}

/-- The line of a pause after an answer. -/
def pauseLine : Answer → List Event
  | .ok _ => []
  | .error fault => [.stillWaiting fault.message]

/-- Everything reported by some questions with pauses between them. -/
def report (ask : Asker state) (current : state) (pauses : Nat) : List Event :=
  (List.range pauses).flatMap
      (fun number => ask.eventsAt current number ++ pauseLine (ask.answerAt current number)) ++
    ask.eventsAt current pauses

/-- Everything reported by some questions with a pause after each. -/
def pausedReport (ask : Asker state) (current : state) (pauses : Nat) : List Event :=
  (List.range pauses).flatMap fun number =>
    ask.eventsAt current number ++ pauseLine (ask.answerAt current number)

theorem report_eq (ask : Asker state) (current : state) (pauses : Nat) :
    report ask current pauses =
      pausedReport ask current pauses ++ ask.eventsAt current pauses :=
  rfl

theorem pausedReport_succ (ask : Asker state) (current : state) (pauses : Nat) :
    pausedReport ask current (pauses + 1) =
      (ask current).2.1 ++ pauseLine (ask current).1 ++
        pausedReport ask (ask current).2.2 pauses := by
  simp only [pausedReport, List.range_succ_eq_map, List.flatMap_cons, List.flatMap_map,
    Asker.eventsAt_zero, Asker.answerAt_zero, Asker.eventsAt_succ, Asker.answerAt_succ,
    Nat.succ_eq_add_one]

/-! ## Verdicts -/

variable {patience : Patience} {elapsed : Nat}

theorem judge_of_settles {answer : Answer} (settled : answer.settles) :
    judge patience elapsed answer = .ends (.answered answer) := by
  cases answer with
  | ok leader => rfl
  | error fault => exact if_pos settled

theorem judge_of_retryable {fault : Fault} (again : fault.retryable)
    (inRange : overflowsClock (elapsed + patience.pause.nanoseconds) = false) :
    judge patience elapsed (.error fault) =
      if patience.timeout.nanoseconds < elapsed + patience.pause.nanoseconds then
        .ends (.answered (.error (patience.timeoutFault fault)))
      else .goesOn fault := by
  rw [judge, if_neg (by simp [again]), if_neg (by simp [inRange])]

/-- A wait goes on over all pauses it has time for.  The induction is on these pauses. -/
theorem asking_of_goesOn {ask : Asker state} {pauses : Nat}
    (questions elapsed asked : Nat) (reversed : List Event) (current : state)
    (continued : ∀ number < pauses, ∃ fault,
      ask.answerAt current number = .error fault ∧
        judge patience (elapsed + number * patience.pauseTaken) (.error fault) = .goesOn fault) :
    asking ask patience (pauses + questions) elapsed asked reversed current =
      asking ask patience questions (elapsed + pauses * patience.pauseTaken) (asked + pauses)
        ((pausedReport ask current pauses).reverse ++ reversed) (ask.stateAt current pauses) := by
  induction pauses generalizing elapsed asked reversed current with
  | zero => simp [pausedReport, Asker.stateAt]
  | succ pauses induction =>
      obtain ⟨fault, answered, verdict⟩ := continued 0 (Nat.succ_pos _)
      rw [Asker.answerAt_zero] at answered
      rw [Nat.zero_mul, Nat.add_zero] at verdict
      have time : ∀ number, elapsed + (number + 1) * patience.pauseTaken =
          elapsed + patience.pauseTaken + number * patience.pauseTaken := by
        intro number
        rw [Nat.succ_mul]
        omega
      have rest := induction (elapsed + patience.pauseTaken) (asked + 1)
        (.stillWaiting fault.message :: ((ask current).2.1.reverse ++ reversed))
        (ask current).2.2
        (fun number before => by
          obtain ⟨later, given, goes⟩ := continued (number + 1) (by omega)
          exact ⟨later, given, time number ▸ goes⟩)
      rw [Nat.succ_add, asking_succ, answered, verdict]
      simp only [rest, time, pausedReport_succ, answered, pauseLine, Asker.stateAt]
      simp [Nat.add_comm, Nat.add_left_comm]

/-- A wait whose verdicts are known up to the one that ends it. -/
theorem asking_of_verdicts {ask : Asker state} {ending : Ending} {pauses : Nat}
    (questions elapsed asked : Nat) (reversed : List Event) (current : state)
    (enough : pauses < questions)
    (continued : ∀ number < pauses, ∃ fault,
      ask.answerAt current number = .error fault ∧
        judge patience (elapsed + number * patience.pauseTaken) (.error fault) = .goesOn fault)
    (ended : judge patience (elapsed + pauses * patience.pauseTaken)
      (ask.answerAt current pauses) = .ends ending) :
    asking ask patience questions elapsed asked reversed current =
      ⟨ending, elapsed + pauses * patience.pauseTaken, asked + pauses + 1,
        reversed.reverse ++ report ask current pauses, ask.stateAt current (pauses + 1)⟩ := by
  obtain ⟨left, rfl⟩ : ∃ left, questions = pauses + (left + 1) :=
    Nat.exists_eq_add_of_lt enough
  have next : ask.stateAt current (pauses + 1) = (ask (ask.stateAt current pauses)).2.2 :=
    ask.stateAt_add current pauses 1
  have verdict : judge patience (elapsed + pauses * patience.pauseTaken)
      (ask (ask.stateAt current pauses)).1 = .ends ending := ended
  rw [asking_of_goesOn _ elapsed asked reversed current continued, asking_succ, verdict]
  simp [report_eq, next, Asker.eventsAt]

/-- The first answer of an asker that settles a wait. -/
def SettledBy (ask : Asker state) (current : state) (number : Nat) : Prop :=
  (ask.answerAt current number).settles ∧
    ∀ earlier < number, ¬(ask.answerAt current earlier).settles

theorem overflowsClock_of_le {time limit : Nat} (earlier : time ≤ limit)
    (inRange : overflowsClock limit = false) : overflowsClock time = false := by
  simp only [overflowsClock, decide_eq_false_iff_not] at *
  omega

/-- A whole pause after the deadline is on the clock, and so is one after the last pause. -/
theorem overflowsClock_add_pause
    (inRange :
      overflowsClock (patience.timeout.nanoseconds + patience.pause.nanoseconds) = false) :
    overflowsClock (patience.pauses * patience.pauseTaken + patience.pause.nanoseconds) = false :=
  overflowsClock_of_le (Nat.add_le_add_right patience.pauses_mul_le_timeout _) inRange

/-- Before its deadline a wait goes on after an answer that does not settle it. -/
theorem judge_of_early {ask : Asker state} {current : state} {number : Nat}
    (shown : overflowsClock patience.timeout.nanoseconds = false)
    (early : number * patience.pauseTaken + patience.pause.nanoseconds ≤
      patience.timeout.nanoseconds)
    (unsettled : ¬(ask.answerAt current number).settles) :
    ∃ fault, ask.answerAt current number = .error fault ∧
      judge patience (0 + number * patience.pauseTaken) (.error fault) = .goesOn fault := by
  obtain ⟨fault, answered, again⟩ := Answer.not_settles unsettled
  refine ⟨fault, answered, ?_⟩
  rw [Nat.zero_add, judge_of_retryable again (overflowsClock_of_le early shown),
    if_neg (Nat.not_lt_of_le early)]

/--
A wait whose deadline is on the clock ends with the first verdict that ends it, if
the answers before do not settle it and leave time for the pauses between them.
-/
theorem run_of_ended {ask : Asker state} {current : state} {ending : Ending}
    {number unpaused : Nat} (shown : overflowsClock patience.timeout.nanoseconds = false)
    (early : ∀ earlier < number,
      earlier * patience.pauseTaken + patience.pause.nanoseconds ≤ patience.timeout.nanoseconds)
    (enough : number < patience.mostQuestions unpaused)
    (unsettled : ∀ earlier < number, ¬(ask.answerAt current earlier).settles)
    (ended : judge patience (number * patience.pauseTaken) (ask.answerAt current number) =
      .ends ending) :
    run ask patience unpaused current =
      ⟨ending, number * patience.pauseTaken, number + 1, report ask current number,
        ask.stateAt current (number + 1)⟩ := by
  rw [← Nat.zero_add (number * patience.pauseTaken)] at ended
  rw [run, shown, if_neg Bool.false_ne_true,
    asking_of_verdicts _ 0 0 [] current enough
      (fun earlier before => judge_of_early shown (early earlier before)
        (unsettled earlier before))
      ended]
  simp

/-- A wait that is settled before the pauses run out ends with the answer that settles it. -/
theorem run_of_settledBy {ask : Asker state} {current : state} {number unpaused : Nat}
    (inRange :
      overflowsClock (patience.timeout.nanoseconds + patience.pause.nanoseconds) = false)
    (early : ∀ earlier < number,
      earlier * patience.pauseTaken + patience.pause.nanoseconds ≤ patience.timeout.nanoseconds)
    (enough : number < patience.mostQuestions unpaused)
    (settled : SettledBy ask current number) :
    run ask patience unpaused current =
      ⟨.answered (ask.answerAt current number), number * patience.pauseTaken, number + 1,
        report ask current number, ask.stateAt current (number + 1)⟩ :=
  run_of_ended (overflowsClock_of_le (Nat.le_add_right _ _) inRange) early enough settled.2
    (judge_of_settles settled.1)

/-- After the last pause that fits a question that may be asked again ends the wait. -/
theorem judge_of_late {fault : Fault} (again : fault.retryable)
    (pausing : 0 < patience.pause.nanoseconds) :
    judge patience (patience.pauses * patience.pauseTaken) (.error fault) =
      .ends (if overflowsClock (patience.pauses * patience.pauseTaken + patience.pause.nanoseconds)
        then .clockOverflow else .answered (.error (patience.timeoutFault fault))) := by
  rw [judge, if_neg (by simp [again])]
  split_ifs with beyond late
  · rfl
  · rfl
  · exact absurd (Patience.timeout_lt_add_pause pausing) late

/--
A wait that nothing settles ends after the last pause that fits, at its deadline
or at the end of the clock.
-/
theorem run_of_unsettled_shown {ask : Asker state} {current : state} (unpaused : Nat)
    (shown : overflowsClock patience.timeout.nanoseconds = false)
    (pausing : 0 < patience.pause.nanoseconds)
    (unsettled : ∀ number ≤ patience.pauses, ¬(ask.answerAt current number).settles) :
    ∃ fault, ask.answerAt current patience.pauses = .error fault ∧
      run ask patience unpaused current =
        ⟨if overflowsClock (patience.pauses * patience.pauseTaken + patience.pause.nanoseconds)
            then .clockOverflow else .answered (.error (patience.timeoutFault fault)),
          patience.pauses * patience.pauseTaken, patience.pauses + 1,
          report ask current patience.pauses, ask.stateAt current (patience.pauses + 1)⟩ := by
  obtain ⟨fault, answered, again⟩ := Answer.not_settles (unsettled _ (Nat.le_refl _))
  refine ⟨fault, answered, ?_⟩
  apply run_of_ended shown
  · exact fun earlier before => Patience.add_pause_le_timeout before
  · exact Patience.pauses_lt_mostQuestions pausing unpaused
  · exact fun earlier before => unsettled earlier (Nat.le_of_lt before)
  · rw [answered]
    exact judge_of_late again pausing

/-- A wait that nothing settles ends at its deadline with the fault of the last question. -/
theorem run_of_unsettled {ask : Asker state} {current : state} (unpaused : Nat)
    (inRange :
      overflowsClock (patience.timeout.nanoseconds + patience.pause.nanoseconds) = false)
    (pausing : 0 < patience.pause.nanoseconds)
    (unsettled : ∀ number ≤ patience.pauses, ¬(ask.answerAt current number).settles) :
    ∃ fault, ask.answerAt current patience.pauses = .error fault ∧
      run ask patience unpaused current =
        ⟨.answered (.error (patience.timeoutFault fault)),
          patience.pauses * patience.pauseTaken, patience.pauses + 1,
          report ask current patience.pauses, ask.stateAt current (patience.pauses + 1)⟩ := by
  have shown := overflowsClock_of_le (Nat.le_add_right _ _) inRange
  have ends := run_of_unsettled_shown unpaused shown pausing unsettled
  rwa [overflowsClock_add_pause inRange] at ends

/-- Among some answers there is a first one that settles a wait, or else none of them does. -/
theorem exists_first (ask : Asker state) (current : state) (count : Nat) :
    ∃ number ≤ count, (∀ earlier < number, ¬(ask.answerAt current earlier).settles) ∧
      ((ask.answerAt current number).settles ∨ number = count) := by
  induction count with
  | zero => exact ⟨0, Nat.le_refl 0, fun _ before => absurd before (Nat.not_lt_zero _), .inr rfl⟩
  | succ count induction =>
      obtain ⟨number, inTime, unsettled, first⟩ := induction
      by_cases settles : (ask.answerAt current number).settles
      · exact ⟨number, Nat.le_succ_of_le inTime, unsettled, .inl settles⟩
      · obtain rfl : number = count := first.resolve_left settles
        refine ⟨number + 1, Nat.le_refl _, ?_, .inr rfl⟩
        intro earlier before
        rcases Nat.lt_succ_iff_lt_or_eq.mp before with before | rfl
        · exact unsettled earlier before
        · exact settles

/--
A wait whose deadline is on the clock ends with the first answer that settles it,
or after the last pause that fits.
-/
theorem run_cases_shown (ask : Asker state) (unpaused : Nat) (current : state)
    (shown : overflowsClock patience.timeout.nanoseconds = false)
    (pausing : 0 < patience.pause.nanoseconds) :
    ∃ number ≤ patience.pauses, ∃ ending,
      run ask patience unpaused current =
          ⟨ending, number * patience.pauseTaken, number + 1,
            report ask current number, ask.stateAt current (number + 1)⟩ ∧
        (∀ earlier < number, ¬(ask.answerAt current earlier).settles) ∧
        (((ask.answerAt current number).settles ∧
            ending = .answered (ask.answerAt current number)) ∨
          (number = patience.pauses ∧ ¬(ask.answerAt current number).settles ∧
            ∃ fault, ask.answerAt current number = .error fault ∧
              ending =
                if overflowsClock
                    (patience.pauses * patience.pauseTaken + patience.pause.nanoseconds)
                then .clockOverflow else .answered (.error (patience.timeoutFault fault)))) := by
  obtain ⟨number, inTime, unsettled, first⟩ := exists_first ask current patience.pauses
  by_cases settles : (ask.answerAt current number).settles
  · have outcome := run_of_ended shown
      (fun earlier before => Patience.add_pause_le_timeout (Nat.lt_of_lt_of_le before inTime))
      (Nat.lt_of_le_of_lt inTime (Patience.pauses_lt_mostQuestions pausing unpaused))
      unsettled (judge_of_settles settles)
    exact ⟨number, inTime, _, outcome, unsettled, .inl ⟨settles, rfl⟩⟩
  · obtain rfl : number = patience.pauses := first.resolve_left settles
    have never : ∀ number ≤ patience.pauses, ¬(ask.answerAt current number).settles := by
      intro number inTime
      rcases Nat.lt_or_eq_of_le inTime with before | rfl
      · exact unsettled number before
      · exact settles
    obtain ⟨fault, answered, outcome⟩ := run_of_unsettled_shown unpaused shown pausing never
    exact ⟨patience.pauses, inTime, _, outcome, unsettled,
      .inr ⟨rfl, settles, fault, answered, rfl⟩⟩

/--
A wait ends with the first answer that settles it, or with the fault of the last
question before its deadline.
-/
theorem run_cases (ask : Asker state) (unpaused : Nat) (current : state)
    (inRange :
      overflowsClock (patience.timeout.nanoseconds + patience.pause.nanoseconds) = false)
    (pausing : 0 < patience.pause.nanoseconds) :
    ∃ number ≤ patience.pauses, ∃ answer,
      run ask patience unpaused current =
          ⟨.answered answer, number * patience.pauseTaken, number + 1,
            report ask current number, ask.stateAt current (number + 1)⟩ ∧
        (∀ earlier < number, ¬(ask.answerAt current earlier).settles) ∧
        (((ask.answerAt current number).settles ∧ answer = ask.answerAt current number) ∨
          (number = patience.pauses ∧ ¬(ask.answerAt current number).settles ∧
            ∃ fault, ask.answerAt current number = .error fault ∧
              answer = .error (patience.timeoutFault fault))) := by
  have shown := overflowsClock_of_le (Nat.le_add_right _ _) inRange
  obtain ⟨number, inTime, ending, outcome, unsettled, decision⟩ :=
    run_cases_shown ask unpaused current shown pausing
  rcases decision with ⟨settles, rfl⟩ | ⟨last, undecided, fault, answered, rfl⟩
  · exact ⟨number, inTime, _, outcome, unsettled, .inl ⟨settles, rfl⟩⟩
  · rw [overflowsClock_add_pause inRange, if_neg Bool.false_ne_true] at outcome
    exact ⟨number, inTime, _, outcome, unsettled,
      .inr ⟨last, undecided, fault, answered, rfl⟩⟩

/-! ## The main statement -/

/--
The exact outcome of a wait.  It asks at most once more than it can pause, where
pauses are as many as fit into the timeout; the first answer that settles it is
its result, and otherwise the timeout tells the last fault.  Without pauses the
deadline is never reached.
-/
theorem run_outcome (ask : Asker state) (patience : Patience) (unpaused : Nat) (current : state)
    (inRange :
      overflowsClock (patience.timeout.nanoseconds + patience.pause.nanoseconds) = false) :
    (0 < patience.pause.nanoseconds →
      (∀ number ≤ patience.pauses, SettledBy ask current number →
        run ask patience unpaused current =
          ⟨.answered (ask.answerAt current number), number * patience.pauseTaken, number + 1,
            report ask current number, ask.stateAt current (number + 1)⟩) ∧
      ((∀ number ≤ patience.pauses, ¬(ask.answerAt current number).settles) →
        ∃ fault, ask.answerAt current patience.pauses = .error fault ∧
          run ask patience unpaused current =
            ⟨.answered (.error (.timeout
                ("no leader after " ++ patience.timeout.text ++ ": " ++ fault.message))),
              patience.pauses * patience.pauseTaken, patience.pauses + 1,
              report ask current patience.pauses,
              ask.stateAt current (patience.pauses + 1)⟩) ∧
      patience.pauses * patience.pauseTaken ≤ patience.timeout.nanoseconds ∧
      (patience.pause.nanoseconds ≤ longestPause →
        patience.pauseTaken = patience.pause.nanoseconds ∧
          patience.pauses = patience.timeout.nanoseconds / patience.pause.nanoseconds)) ∧
    (patience.pause.nanoseconds = 0 →
      ∀ number < unpaused, SettledBy ask current number →
        run ask patience unpaused current =
          ⟨.answered (ask.answerAt current number), 0, number + 1,
            report ask current number, ask.stateAt current (number + 1)⟩) := by
  constructor
  · intro pausing
    refine ⟨?_, ?_, patience.pauses_mul_le_timeout, ?_⟩
    · intro number inTime settled
      have enough := Patience.pauses_lt_mostQuestions pausing unpaused
      exact run_of_settledBy inRange
        (fun earlier before => Patience.add_pause_le_timeout (Nat.lt_of_lt_of_le before inTime))
        (Nat.lt_of_le_of_lt inTime enough) settled
    · intro unsettled
      exact run_of_unsettled unpaused inRange pausing unsettled
    · intro short
      exact ⟨Patience.pauseTaken_of_le short, Patience.pauses_of_le pausing short⟩
  · intro unpausing number asked settled
    have taken : patience.pauseTaken = 0 := by
      rw [Patience.pauseTaken, unpausing, Nat.zero_min]
    have enough : number < patience.mostQuestions unpaused := by
      rwa [Patience.mostQuestions, if_pos taken]
    have early : ∀ earlier < number,
        earlier * patience.pauseTaken + patience.pause.nanoseconds ≤
          patience.timeout.nanoseconds := by
      intro earlier _
      rw [taken, unpausing, Nat.mul_zero]
      exact Nat.zero_le _
    rw [run_of_settledBy inRange early enough settled, taken, Nat.mul_zero]

/-- An asker that knows no leader at first, and then names one. -/
def electedAfter (questions : Nat) (leader : NodeId) : Asker Nat := fun asked =>
  (if asked < questions then .error .noLeader else .ok leader, [], asked + 1)

/-- The timeout is a multiple of the pause, and the leader comes one question too late. -/
theorem run_outcome_multiple :
    let patience : Patience := ⟨.ofMilliseconds 200, .ofMilliseconds 100⟩
    overflowsClock (patience.timeout.nanoseconds + patience.pause.nanoseconds) = false ∧
      run (electedAfter 3 (.ofNat 7)) patience 0 0 =
        ⟨.answered (.error (.timeout
            "no leader after 200ms: No leader is currently known")), 200000000, 3,
          [.stillWaiting "No leader is currently known",
            .stillWaiting "No leader is currently known"], 3⟩ := by
  refine ⟨by decide, ?_⟩
  obtain ⟨fault, answered, outcome⟩ :=
    ((run_outcome (electedAfter 3 (.ofNat 7))
      ⟨.ofMilliseconds 200, .ofMilliseconds 100⟩ 0 0 (by decide)).1 (by decide)).2.1 (by decide)
  obtain rfl : .noLeader = fault := Except.error.inj answered
  exact outcome

/--
A pause of more than thirty years is cut short, so that there may be more of them
than fit into the timeout at their full length.
-/
theorem longPause_not_exact :
    let patience : Patience := ⟨.ofMilliseconds 1892160001000, .ofMilliseconds 946080001000⟩
    overflowsClock (patience.timeout.nanoseconds + patience.pause.nanoseconds) = false ∧
      patience.timeout.nanoseconds / patience.pause.nanoseconds + 1 = 2 ∧
      (∀ number < 2, ¬((electedAfter 2 (.ofNat 7)).answerAt 0 number).settles) ∧
      (run (electedAfter 2 (.ofNat 7)) patience 0 0).asked = 3 ∧
      (run (electedAfter 2 (.ofNat 7)) patience 0 0).ending = .answered (.ok (.ofNat 7)) := by
  refine ⟨by decide, by decide, by decide, by decide, rfl⟩

end Wait

end Leadership
