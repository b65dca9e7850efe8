import Leadership.Consult
import Leadership.Proofs.Config.Reload
import Leadership.Proofs.Config.Validity
import Leadership.Proofs.Wait.Outcome

/-!
# The end of the clock

A wait moves its clock twice: to its deadline before the first question, and over
a pause after each question that failed.  A clock that ends before does not end
the wait with an answer.  Nothing that is checked of a configuration prevents
this: the timeout that a document gives may be longer than the clock, and a
timeout that is not may be followed by a pause that is.

A pause is moved over before it is compared with the deadline, but where it passes
the end of the clock it passes a deadline on the clock as well.  So of all pauses
only the one after the last question can do so.
-/

namespace Leadership

namespace Patience

variable {patience : Patience}

/-- The time after the start of a wait at which the pause that no longer fits would end. -/
def lastReach (patience : Patience) : Nat :=
  patience.pauses * patience.pauseTaken + patience.pause.nanoseconds

/-- A patience with which no wait moves its clock beyond the end. -/
structure FitsClock (patience : Patience) : Prop where
  deadline : overflowsClock patience.timeout.nanoseconds = false
  lastReach : overflowsClock patience.lastReach = false

theorem fitsClock_iff :
    patience.FitsClock ↔
      overflowsClock patience.timeout.nanoseconds = false ∧
        overflowsClock patience.lastReach = false := by
  constructor
  · intro fits
    exact ⟨fits.deadline, fits.lastReach⟩
  · rintro ⟨deadline, lastReach⟩
    exact ⟨deadline, lastReach⟩

instance : Decidable patience.FitsClock :=
  decidable_of_iff' _ fitsClock_iff

/-- Where one pause fits into the timeout, the last one reaches at most a pause beyond it. -/
theorem lastReach_le (patient : patience.pause ≤ patience.timeout) :
    patience.lastReach ≤ patience.timeout.nanoseconds + patience.pauseTaken := by
  obtain ⟨earlier, counted⟩ : ∃ earlier, patience.pauses = earlier + 1 :=
    ⟨_, if_neg (Nat.not_lt_of_le patient)⟩
  have before : earlier < patience.pauses := counted ▸ Nat.lt_succ_self earlier
  have fits := add_pause_le_timeout before
  rw [lastReach, counted, Nat.succ_mul]
  omega

/-- The longest pause beyond a deadline is enough clock for any wait. -/
theorem fitsClock_of_longestPause (patient : patience.pause ≤ patience.timeout)
    (inRange : overflowsClock (patience.timeout.nanoseconds + longestPause) = false) :
    patience.FitsClock where
  deadline := Wait.overflowsClock_of_le (Nat.le_add_right _ _) inRange
  lastReach := by
    apply Wait.overflowsClock_of_le _ inRange
    exact Nat.le_trans (lastReach_le patient) (Nat.add_le_add_left (Nat.min_le_right _ _) _)

/-- A span is beyond the clock if its whole seconds are. -/
theorem overflowsClock_iff (span : Span) :
    overflowsClock span.nanoseconds ↔ 2 ^ 63 - 1 ≤ span.seconds := by
  rw [overflowsClock, decide_eq_true_iff, Span.seconds, Nat.le_div_iff_mul_le (by decide)]
  rfl

end Patience

namespace Wait

variable {state : Type}

/--
The clock ends before a wait does: it does not show the deadline, or nothing
settles the wait before the pause that it does not show the end of.
-/
def OutlastsClock (ask : Asker state) (patience : Patience) (current : state) : Prop :=
  overflowsClock patience.timeout.nanoseconds ∨
    (overflowsClock patience.lastReach ∧
      ∀ number ≤ patience.pauses, ¬(ask.answerAt current number).settles)

variable {ask : Asker state} {patience : Patience} {current : state}

instance : Decidable (OutlastsClock ask patience current) :=
  inferInstanceAs (Decidable (_ ∨ (_ ∧ _)))

/-- Without the clock for its deadline a wait asks nothing. -/
theorem run_of_hidden (unpaused : Nat)
    (hidden : overflowsClock patience.timeout.nanoseconds) :
    run ask patience unpaused current = ⟨.clockOverflow, 0, 0, [], current⟩ :=
  if_pos hidden

/-- A wait ends with an answer, or else it outlasts the clock. -/
theorem run_ending (ask : Asker state) (unpaused : Nat) (current : state)
    (pausing : 0 < patience.pause.nanoseconds) :
    ((∃ answer, (run ask patience unpaused current).ending = .answered answer) ∧
        ¬OutlastsClock ask patience current) ∨
      ((run ask patience unpaused current).ending = .clockOverflow ∧
        OutlastsClock ask patience current) := by
  cases shown : overflowsClock patience.timeout.nanoseconds with
  | true =>
      refine .inr ⟨?_, .inl shown⟩
      rw [run_of_hidden unpaused shown]
  | false =>
      have visible : ¬overflowsClock patience.timeout.nanoseconds := by
        rw [shown]
        exact Bool.false_ne_true
      obtain ⟨number, inTime, ending, outcome, unsettled, decision⟩ :=
        run_cases_shown ask unpaused current shown pausing
      rw [outcome]
      rcases decision with ⟨settles, rfl⟩ | ⟨rfl, undecided, fault, -, rfl⟩
      · refine .inl ⟨⟨_, rfl⟩, ?_⟩
        rintro (hidden | ⟨-, never⟩)
        · exact visible hidden
        · exact never number inTime settles
      · have never : ∀ number ≤ patience.pauses, ¬(ask.answerAt current number).settles := by
          intro number inTime
          rcases Nat.lt_or_eq_of_le inTime with before | rfl
          · exact unsettled number before
          · exact undecided
        by_cases beyond : overflowsClock patience.lastReach
        · exact .inr ⟨if_pos beyond, .inr ⟨beyond, never⟩⟩
        · refine .inl ⟨⟨_, if_neg beyond⟩, ?_⟩
          rintro (hidden | ⟨reached, -⟩)
          · exact visible hidden
          · exact beyond reached

/-- No wait outlasts a clock that its patience fits. -/
theorem not_outlastsClock (fits : patience.FitsClock) : ¬OutlastsClock ask patience current := by
  rintro (hidden | ⟨reached, -⟩)
  · exact absurd (fits.deadline.symm.trans hidden) Bool.false_ne_true
  · exact absurd (fits.lastReach.symm.trans reached) Bool.false_ne_true

/-- An asker that never knows a leader. -/
def neverElected : Asker Unit := fun _ =>
  (.error .noLeader, [], ())

/-- Without such a clock there is a wait that outlasts it. -/
theorem outlastsClock_neverElected (unfit : ¬patience.FitsClock) :
    OutlastsClock neverElected patience () := by
  by_cases hidden : overflowsClock patience.timeout.nanoseconds
  · exact .inl hidden
  · refine .inr ⟨?_, fun number _ => Bool.false_ne_true⟩
    by_contra within
    exact unfit ⟨Bool.not_eq_true _ ▸ hidden, Bool.not_eq_true _ ▸ within⟩

end Wait

namespace Config

variable {state : Type} {config : Config} (ask : Asker state) (unpaused : Nat) (current : state)

/-- A router finds an answer exactly if the wait does not outlast the clock. -/
theorem consult_wait_iff (pausing : 0 < config.patience.pause.nanoseconds) :
    ((∃ answer elapsed, (config.consult ask unpaused .wait current).1 =
        .waited (.answered answer) elapsed) ↔
      ¬Wait.OutlastsClock ask config.patience current) ∧
    ((∃ elapsed, (config.consult ask unpaused .wait current).1 =
        .waited .clockOverflow elapsed) ↔
      Wait.OutlastsClock ask config.patience current) := by
  simp only [consult]
  rcases Wait.run_ending ask unpaused current pausing with
    ⟨⟨answer, ends⟩, within⟩ | ⟨ends, beyond⟩
  · rw [ends]
    constructor
    · exact iff_of_true ⟨answer, _, rfl⟩ within
    · exact iff_of_false (by rintro ⟨elapsed, same⟩; cases same) within
  · rw [ends]
    constructor
    · exact iff_of_false (by rintro ⟨answer, elapsed, same⟩; cases same) (not_not_intro beyond)
    · exact iff_of_true ⟨_, rfl⟩ beyond

theorem consult_wait_of_hidden (hidden : overflowsClock config.patience.timeout.nanoseconds) :
    config.consult ask unpaused .wait current = (.waited .clockOverflow 0, [], current) := by
  simp only [consult, Wait.run_of_hidden unpaused hidden]

/-! ## The main statement -/

/--
A wait of a valid configuration that a document gives ends with a leader or a
fault, unless it outlasts the clock.  All of its waits end so exactly if its
patience fits the clock.  A timeout of `2 ^ 63 - 1` seconds or more does not, and a
document can give one that is up to four seconds longer; a timeout that leaves
room for the longest pause does.
-/
theorem wait_on_clock (text : String) (config : Config) (loads : ofDocument text = .ok config)
    (accepted : config.validate = .ok ()) :
    (∀ (state : Type) (ask : Asker state) (unpaused : Nat) (current : state),
      ((∃ answer elapsed, (config.consult ask unpaused .wait current).1 =
          .waited (.answered answer) elapsed) ↔
        ¬Wait.OutlastsClock ask config.patience current) ∧
      ((∃ elapsed, (config.consult ask unpaused .wait current).1 =
          .waited .clockOverflow elapsed) ↔
        Wait.OutlastsClock ask config.patience current) ∧
      (overflowsClock config.patience.timeout.nanoseconds →
        config.consult ask unpaused .wait current = (.waited .clockOverflow 0, [], current))) ∧
    ((∀ (state : Type) (ask : Asker state) (unpaused : Nat) (current : state),
      ∃ answer elapsed, (config.consult ask unpaused .wait current).1 =
        .waited (.answered answer) elapsed) ↔ config.patience.FitsClock) ∧
    (2 ^ 63 - 1 ≤ config.patience.timeout.seconds → ¬config.patience.FitsClock) ∧
    config.patience.timeout.seconds ≤ 2 ^ 63 + 3 ∧
    (overflowsClock (config.patience.timeout.nanoseconds + longestPause) = false →
      config.patience.FitsClock) := by
  have valid := validate_eq_ok_iff.mp accepted
  have pausing : 0 < config.patience.pause.nanoseconds :=
    Nat.lt_of_lt_of_le (by decide) valid.unhurried
  refine ⟨?_, ?_, ?_, (nearlyFits_of_ofDocument loads).timeout,
    Patience.fitsClock_of_longestPause valid.patient⟩
  · intro state ask unpaused current
    have findings := consult_wait_iff ask unpaused current pausing
    exact ⟨findings.1, findings.2, consult_wait_of_hidden ask unpaused current⟩
  · constructor
    · intro answered
      by_contra unfit
      have within := (consult_wait_iff Wait.neverElected 0 () pausing).1.mp
        (answered Unit Wait.neverElected 0 ())
      exact within (Wait.outlastsClock_neverElected unfit)
    · intro fits state ask unpaused current
      exact (consult_wait_iff ask unpaused current pausing).1.mpr (Wait.not_outlastsClock fits)
  · intro endless fits
    have hidden := (Patience.overflowsClock_iff config.patience.timeout).mpr endless
    exact absurd (fits.deadline.symm.trans hidden) Bool.false_ne_true

/-- The document of a cluster of one, with the parts of its timeout and of its pause. -/
def aloneDocument (timeout pause : String) : String :=
  "node_id = 1\ncluster_name = 'c'\nmembers = [[1, '', '10.0.0.1:1']]\nleader_wait = [[" ++
    timeout ++ "], [" ++ pause ++ "]]"

/-- What such a document holds. -/
def alone (timeout pause : Span) : Config :=
  ⟨.ofNat 1, "c", [⟨.ofNat 1, "", .v4 ⟨10, 0, 0, 1⟩ 1⟩], ⟨timeout, pause⟩⟩

/-- The deadline is on the clock, and a second question may come too late for it. -/
theorem wait_on_clock_lastReach :
    let span : Span := ⟨(2 ^ 63 - 2) * 10 ^ 9, by decide⟩
    let config := alone span span
    ofDocument (aloneDocument "9223372036854775806, 0" "9223372036854775806, 0") = .ok config ∧
      config.validate = .ok () ∧
      ¬config.patience.FitsClock ∧
      (∃ answer elapsed, (config.consult (Wait.electedAfter 1 (.ofNat 3)) 0 .wait 0).1 =
        .waited (.answered answer) elapsed) ∧
      ∃ elapsed, (config.consult (Wait.electedAfter 2 (.ofNat 3)) 0 .wait 0).1 =
        .waited .clockOverflow elapsed := by
  intro span config
  have loads :
      ofDocument (aloneDocument "9223372036854775806, 0" "9223372036854775806, 0") = .ok config :=
    eq_ok_of_toOption (by decide +kernel)
  have accepted : config.validate = .ok () := by decide
  obtain ⟨waits, -⟩ := wait_on_clock _ config loads accepted
  refine ⟨loads, accepted, by decide, ?_, ?_⟩
  · exact (waits Nat (Wait.electedAfter 1 (.ofNat 3)) 0 0).1.mpr (by decide)
  · exact (waits Nat (Wait.electedAfter 2 (.ofNat 3)) 0 0).2.1.mpr (by decide)

/-- The clock ends before the deadline, and nobody is asked for the leader that there is. -/
theorem clock_ends_unasked :
    let config := alone ⟨(2 ^ 63 - 1) * 10 ^ 9, by decide⟩ (.ofMilliseconds 10)
    ofDocument (aloneDocument "9223372036854775807, 0" "0, 10000000") = .ok config ∧
      config.validate = .ok () ∧
      config.consult (Wait.electedAfter 0 (.ofNat 3)) 0 .wait 0 =
        (.waited .clockOverflow 0, [], 0) := by
  intro config
  exact ⟨eq_ok_of_toOption (by decide +kernel), by decide, rfl⟩

end Config

end Leadership
