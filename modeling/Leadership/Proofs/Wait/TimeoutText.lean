import Leadership.Proofs.Span.Text
import Leadership.Proofs.Wait.Polls

/-!
# What a timeout says

A wait that ends at its deadline says how long it was to last and quotes the fault
of its last question.  Both can be told from the text: however the timeout is
written, its text ends at the first colon, and whatever the last fault says stands
behind.
-/

namespace Leadership

/-- The fault of a timeout tells how long the wait was to last and what its last fault says. -/
theorem Patience.message_timeoutFault_eq_iff {patience other : Patience} {last otherLast : Fault} :
    (patience.timeoutFault last).message = (other.timeoutFault otherLast).message ↔
      patience.timeout.nanoseconds = other.timeout.nanoseconds ∧
        last.message = otherLast.message := by
  have spelled (patience : Patience) (last : Fault) :
      (patience.timeoutFault last).message =
        "Timeout error: " ++ ("no leader after " ++
          (patience.timeout.text ++ (": " ++ last.message))) := by
    show "Timeout error: " ++
      ("no leader after " ++ patience.timeout.text ++ ": " ++ last.message) = _
    rw [String.append_assoc, String.append_assoc]
  rw [spelled, spelled, String.append_right_inj, String.append_right_inj, Span.text_append_inj]

namespace Wait

variable {state : Type} {patience : Patience}

/-- Only the deadline ends a wait with a timeout, after a fault that may be mended. -/
theorem eq_timeoutFault_of_judge {elapsed : Nat} {answer : Answer} {detail : String}
    (ends : judge patience elapsed answer = .ends (.answered (.error (.timeout detail)))) :
    ∃ last, answer = .error last ∧ last.retryable ∧
      patience.timeoutFault last = .timeout detail := by
  cases answer with
  | ok leader => cases ends
  | error last =>
      rw [judge] at ends
      split_ifs at ends with final beyond late
      · obtain rfl : last = .timeout detail := by
          cases ends
          rfl
        cases final
      · cases ends
      · refine ⟨last, rfl, by simpa using final, ?_⟩
        cases ends
        rfl

/-- A wait that ends with a timeout has asked a last question, and its fault may be mended. -/
theorem exists_last_of_timeout {ask : Asker state} {unpaused : Nat} {current : state}
    {detail : String}
    (ends : (run ask patience unpaused current).ending = .answered (.error (.timeout detail))) :
    ∃ last, ask.answerAt current ((run ask patience unpaused current).asked - 1) = .error last ∧
      last.retryable ∧ patience.timeoutFault last = .timeout detail := by
  obtain ⟨count, ending, elapsed, events, polled⟩ := exists_polled patience unpaused ask current
  have counted := ask.length_tellings current count
  generalize told : ask.tellings current count = taken at polled counted
  have outcome := polled.run ask current (counted.symm ▸ told)
  rw [outcome] at ends ⊢
  cases polled with
  | hidden beyond => cases ends
  | @ended earlier final ending shown enough unsettled early verdict =>
      rw [← counted, List.length_append, List.length_singleton, ask.tellings_succ] at told
      obtain rfl := List.head_eq_of_cons_eq (List.append_inj told (ask.length_tellings _ _)).2
      obtain rfl : ending = .answered (.error (.timeout detail)) := ends
      rw [List.length_append, List.length_singleton, Nat.add_sub_cancel]
      exact eq_timeoutFault_of_judge verdict
  | unfinished shown unpausing asked unsettled => cases ends

/-! ## The main statement -/

/--
Two waits that end with a timeout.  Each has asked a last question, which failed in
a way that may be mended, and their timeouts say the same exactly if the waits were
to last equally long and the last faults say the same.
-/
theorem timeout_tells_all {other : Type} (ask : Asker state) (otherAsk : Asker other)
    (patience otherPatience : Patience) (unpaused otherUnpaused : Nat) (current : state)
    (otherCurrent : other) (detail otherDetail : String)
    (ends : (run ask patience unpaused current).ending = .answered (.error (.timeout detail)))
    (otherEnds : (run otherAsk otherPatience otherUnpaused otherCurrent).ending =
      .answered (.error (.timeout otherDetail))) :
    ∃ last otherLast : Fault,
      ask.answerAt current ((run ask patience unpaused current).asked - 1) = .error last ∧
      last.retryable ∧
      otherAsk.answerAt otherCurrent
        ((run otherAsk otherPatience otherUnpaused otherCurrent).asked - 1) = .error otherLast ∧
      otherLast.retryable ∧
      ((Fault.timeout detail).message = (Fault.timeout otherDetail).message ↔
        patience.timeout.nanoseconds = otherPatience.timeout.nanoseconds ∧
          last.message = otherLast.message) := by
  obtain ⟨last, answered, again, told⟩ := exists_last_of_timeout ends
  obtain ⟨otherLast, otherAnswered, otherAgain, otherTold⟩ := exists_last_of_timeout otherEnds
  refine ⟨last, otherLast, answered, again, otherAnswered, otherAgain, ?_⟩
  rw [← told, ← otherTold, Patience.message_timeoutFault_eq_iff]

/-- What a wait of little more than fifty milliseconds says at its deadline. -/
def aboveFifty : String :=
  "no leader after 50.000001ms: No leader is currently known"

/-- A wait may quote, behind its own timeout, all that a longer wait says. -/
theorem timeout_tells_all_quoted :
    let silent : Asker Unit := fun _ => (.error .noLeader, [], ())
    let quoting : Asker Unit := fun _ => (.error (.timeout aboveFifty), [], ())
    let short : Patience := ⟨.ofMilliseconds 50, .ofMilliseconds 100⟩
    let long : Patience := ⟨⟨50000001, by decide⟩, .ofMilliseconds 100⟩
    (run quoting short 0 ()).ending =
        .answered (.error (.timeout ("no leader after 50ms: Timeout error: " ++ aboveFifty))) ∧
      (run silent long 0 ()).ending = .answered (.error (.timeout aboveFifty)) ∧
      Fault.message (.timeout ("no leader after 50ms: Timeout error: " ++ aboveFifty)) ≠
        Fault.message (.timeout aboveFifty) := by
  intro silent quoting short long
  have told : short.timeoutFault (.timeout aboveFifty) =
      .timeout ("no leader after 50ms: Timeout error: " ++ aboveFifty) := by decide +kernel
  have ends : (run quoting short 0 ()).ending =
      .answered (.error (.timeout ("no leader after 50ms: Timeout error: " ++ aboveFifty))) := by
    rw [← told]
    rfl
  have otherTold : long.timeoutFault .noLeader = .timeout aboveFifty := by decide +kernel
  have otherEnds : (run silent long 0 ()).ending = .answered (.error (.timeout aboveFifty)) := by
    rw [← otherTold]
    rfl
  obtain ⟨last, otherLast, -, -, -, -, tells⟩ :=
    timeout_tells_all quoting silent short long 0 0 () () _ _ ends otherEnds
  refine ⟨ends, otherEnds, ?_⟩
  intro same
  exact absurd (tells.mp same).1 (by decide)

end Wait

end Leadership
