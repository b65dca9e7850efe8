import Leadership.Consult
import Leadership.Proofs.Fault.Wording
import Mathlib.Tactic.SplitIfs

/-!
# Faults that a status records

A status records of a fault nothing but its wording.  That is enough to tell what
any decision on the same answer comes to: the decisions pass a fault on or look at
its kind, and they never look at the causes that a wording leaves out.
-/

namespace Leadership

/-- An answer as far as the wording of its fault shows it. -/
def Answer.shown (answer : Answer) : Answer :=
  answer.mapError Fault.shown

/-- A verdict as far as the wordings of its faults show it. -/
def Wait.Verdict.shown : Wait.Verdict → Wait.Verdict
  | .ends (.answered answer) => .ends (.answered answer.shown)
  | .ends ending => .ends ending
  | .goesOn fault => .goesOn fault.shown

/-! ## Decisions and hidden causes -/

theorem Wait.judge_shown (patience : Patience) (elapsed : Nat) (answer : Answer) :
    judge patience elapsed answer.shown = (judge patience elapsed answer).shown := by
  cases answer with
  | ok leader => rfl
  | error fault =>
      have sameTimeout : patience.timeoutFault fault.shown = patience.timeoutFault fault := by
        rw [Patience.timeoutFault, Fault.message_shown, Patience.timeoutFault]
      simp only [Answer.shown, Except.mapError, judge, Fault.retryable_shown, sameTimeout]
      split_ifs <;> rfl

namespace Config

variable (config : Config)

theorem isLeader_shown (answer : Answer) :
    config.isLeader answer.shown = (config.isLeader answer).mapError Fault.shown := by
  cases answer <;> rfl

theorem ensureLeader_shown (answer : Answer) :
    config.ensureLeader answer.shown = (config.ensureLeader answer).mapError Fault.shown := by
  cases answer with
  | ok leader =>
      simp only [Answer.shown, Except.mapError, ensureLeader]
      split_ifs <;> rfl
  | error fault => cases fault <;> rfl

theorem route_shown (answer : Answer) :
    config.route answer.shown =
      ((config.route answer).1.mapError Fault.shown, (config.route answer).2) := by
  cases answer with
  | ok leader =>
      simp only [Answer.shown, Except.mapError, route]
      split_ifs with leads
      · rfl
      · cases config.member? leader <;> rfl
  | error fault => rfl

/-- A status records a wording if the answer is a fault with that wording. -/
theorem status_error_eq_some_iff {config : Config} {answer : Answer} {text : String} :
    (config.status answer).error = some text ↔
      ∃ fault, answer = .error fault ∧ fault.message = text := by
  cases answer <;> simp [status]

/-- Answers that are recorded alike differ in nothing that is shown. -/
theorem shown_eq_of_recorded {config : Config} {left right : Answer} {text : String}
    (recorded : (config.status left).error = some text)
    (alike : (config.status right).error = some text) : left.shown = right.shown := by
  obtain ⟨fault, rfl, told⟩ := status_error_eq_some_iff.mp recorded
  obtain ⟨other, rfl, same⟩ := status_error_eq_some_iff.mp alike
  exact congrArg Except.error (Fault.message_eq_iff.mp (told.trans same.symm))

/-! ## The main statement -/

/--
The wording of a fault tells its kind and all that it carries, but for the inner
causes of a foreign failure, and with these whether asking again may succeed.  So
when a status records the same wording for two answers, both are faults, and
whether this node leads, whether it may go on, where a request goes and how a wait
proceeds are decided alike for them, up to such causes.
-/
theorem wording_decides :
    (∀ left right : Fault, left.message = right.message ↔ left.shown = right.shown) ∧
      (∀ left right : Fault, left.message = right.message →
        left.kind = right.kind ∧ left.retryable = right.retryable) ∧
      (∀ root contexts otherRoot otherContexts,
        (Fault.backendWithin root contexts).message =
            (Fault.backendWithin otherRoot otherContexts).message ↔
          contexts.getLast?.getD root = otherContexts.getLast?.getD otherRoot) ∧
      ∀ (config : Config) (left right : Answer) (text : String),
        (config.status left).error = some text → (config.status right).error = some text →
          (config.isLeader left).mapError Fault.shown =
              (config.isLeader right).mapError Fault.shown ∧
            (config.ensureLeader left).mapError Fault.shown =
              (config.ensureLeader right).mapError Fault.shown ∧
            (config.route left).1.mapError Fault.shown =
              (config.route right).1.mapError Fault.shown ∧
            (config.route left).2 = (config.route right).2 ∧
            ∀ (patience : Patience) (elapsed : Nat),
              (Wait.judge patience elapsed left).shown =
                (Wait.judge patience elapsed right).shown := by
  refine ⟨fun left right => Fault.message_eq_iff, ?_, ?_, ?_⟩
  · intro left right same
    refine ⟨Fault.kind_eq_of_message_eq same, ?_⟩
    rw [← left.retryable_shown, Fault.message_eq_iff.mp same, right.retryable_shown]
  · intro root contexts otherRoot otherContexts
    rw [Fault.message_eq_iff, Fault.shown_backendWithin, Fault.shown_backendWithin]
    simp
  · intro config left right text recorded alike
    have same := shown_eq_of_recorded recorded alike
    have routed : config.route left.shown = config.route right.shown := by rw [same]
    rw [route_shown, route_shown, Prod.mk.injEq] at routed
    refine ⟨?_, ?_, routed.1, routed.2, ?_⟩
    · rw [← isLeader_shown, same, isLeader_shown]
    · rw [← ensureLeader_shown, same, ensureLeader_shown]
    · intro patience elapsed
      rw [← Wait.judge_shown, same, Wait.judge_shown]

/-- A foreign failure that says what a timeout would say, with a cause and without one. -/
theorem wording_decides_echo :
    let caused : Answer := .error (.backend "Timeout error: no leader" ["disk on fire"])
    let bare : Answer := .error (.backend "Timeout error: no leader" [])
    (standard.status caused).error = some "Backend error: Timeout error: no leader" ∧
      (standard.status bare).error = some "Backend error: Timeout error: no leader" ∧
      (standard.route caused).1.mapError Fault.shown = (standard.route bare).1 ∧
      Fault.message (.backend "Timeout error: no leader" []) ≠
        Fault.message (.timeout "no leader") := by
  intro caused bare
  have recorded : (standard.status caused).error =
      some "Backend error: Timeout error: no leader" := by decide
  have alike : (standard.status bare).error =
      some "Backend error: Timeout error: no leader" := by decide
  have decided := wording_decides.2.2.2 standard caused bare _ recorded alike
  refine ⟨recorded, alike, decided.2.2.1, ?_⟩
  exact mt (wording_decides.1 _ _).mp (by decide)

end Config

end Leadership
