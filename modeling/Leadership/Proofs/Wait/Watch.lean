import Leadership.Proofs.Config.Validity
import Leadership.Proofs.Fleet.Schedule
import Leadership.Proofs.Routing.Agreement
import Leadership.Proofs.Wait.Outcome

/-!
# Waiting on an engine that changes

While a wait pauses, hosts go on with their engines: leads appear and vanish,
engines stop and start again, and the last handle may be released.  A wait on an
observer notices what is so at the instants of its questions and nothing in
between.  The main statement names these instants and finds the one that decides.

Time passes in pauses alone, and a question is followed by a pause or by the end
of the wait.  So the state of the asker is a clock, and the pause that follows a
question is part of the step.
-/

namespace Leadership

/-! ## Engines that decide a wait -/

namespace Fleet

/-- An engine that is gone or stopped, or that has a lead. -/
def Decided (fleet : Fleet) (berth : Berth) : Prop :=
  ∀ slot, fleet.live? berth = some slot →
    slot.engine.phase = .stopped ∨ slot.engine.lead ≠ nobody

variable {fleet : Fleet} {berth : Berth}

theorem decided_of_gone (gone : fleet.live? berth = none) : fleet.Decided berth := by
  intro slot alive
  rw [gone] at alive
  contradiction

theorem decided_of_alive {slot : Slot} (alive : fleet.live? berth = some slot)
    (decides : slot.engine.phase = .stopped ∨ slot.engine.lead ≠ nobody) :
    fleet.Decided berth := by
  intro other isOther
  rwa [← Option.some.inj (alive.symm.trans isOther)]

variable (fleet berth)

/-- What an observer is told about each kind of engine. -/
theorem answer_cases :
    (fleet.live? berth = none ∧
        (fleet.answer berth).1 = .error (.engineUnavailable "raft server dropped")) ∨
      ∃ slot, fleet.live? berth = some slot ∧
        ((slot.engine.phase = .stopped ∧
            (fleet.answer berth).1 = .error (.engineUnavailable "raft server stopped")) ∨
          (slot.engine.phase ≠ .stopped ∧ slot.engine.lead = nobody ∧
            (fleet.answer berth).1 = .error .noLeader) ∨
          (slot.engine.phase ≠ .stopped ∧ slot.engine.lead ≠ nobody ∧
            (fleet.answer berth).1 = .ok ⟨slot.engine.lead⟩)) := by
  unfold Fleet.answer
  cases found : fleet.live? berth with
  | none => exact .inl ⟨rfl, rfl⟩
  | some slot =>
      refine .inr ⟨slot, rfl, ?_⟩
      simp only [Engine.fst_answer]
      split_ifs with stopped leaderless
      · exact .inl ⟨stopped, rfl⟩
      · exact .inr (.inl ⟨stopped, leaderless, rfl⟩)
      · exact .inr (.inr ⟨stopped, leaderless, rfl⟩)

theorem settles_answer_iff : (fleet.answer berth).1.settles ↔ fleet.Decided berth := by
  rcases fleet.answer_cases berth with ⟨gone, told⟩ | ⟨slot, alive, kind⟩
  · simp [Decided, gone, told, Answer.settles, Fault.retryable]
  · rcases kind with ⟨stopped, told⟩ | ⟨running, leaderless, told⟩ | ⟨running, known, told⟩
    · simp [Decided, alive, told, stopped, Answer.settles, Fault.retryable]
    · simp [Decided, alive, told, running, leaderless, Answer.settles, Fault.retryable]
    · simp [Decided, alive, told, known, Answer.settles]

instance : Decidable (fleet.Decided berth) :=
  decidable_of_iff _ (fleet.settles_answer_iff berth)

/-- An engine that does not decide a wait is alive and knows no leader. -/
theorem answer_of_undecided (undecided : ¬fleet.Decided berth) :
    (fleet.answer berth).1 = .error .noLeader := by
  rcases fleet.answer_cases berth with ⟨gone, -⟩ | ⟨slot, alive, kind⟩
  · exact absurd (decided_of_gone gone) undecided
  · rcases kind with ⟨stopped, -⟩ | ⟨-, -, told⟩ | ⟨-, known, -⟩
    · exact absurd (decided_of_alive alive (.inl stopped)) undecided
    · exact told
    · exact absurd (decided_of_alive alive (.inr known)) undecided

end Fleet

theorem Patience.timeoutFault_noLeader (patience : Patience) :
    patience.timeoutFault .noLeader =
      .timeout ("no leader after " ++ patience.timeout.text ++
        ": No leader is currently known") := by
  rw [timeoutFault, String.append_assoc]
  rfl

/-! ## Looking at an engine -/

/-- An asker in a state that changes by itself after every question. -/
def Asker.amid {state : Type} (lapse : state → state) (ask : Asker state) : Asker state :=
  fun current => ((ask current).1, (ask current).2.1, lapse (ask current).2.2)

/-- A clock, and when it was that somebody looked at an engine. -/
structure Watch where
  instant : Nat
  looks : List Nat

namespace Watch

def start : Watch :=
  ⟨0, []⟩

/-- Some time passes. -/
def pass (duration : Nat) (watch : Watch) : Watch :=
  { watch with instant := watch.instant + duration }

/-- Looks at an engine whose fleet follows a schedule. -/
def look (schedule : Schedule) (fleet : Fleet) (berth : Berth) : Asker Watch := fun watch =>
  let (answer, events) := (schedule.fleetAt fleet watch.instant).answer berth
  (answer, events, { watch with looks := watch.looks ++ [watch.instant] })

variable (schedule : Schedule) (fleet : Fleet) (berth : Berth) (pause : Nat)

theorem stateAt_look (watch : Watch) (number : Nat) :
    ((look schedule fleet berth).amid (pass pause)).stateAt watch number =
      ⟨watch.instant + number * pause,
        watch.looks ++ (List.range number).map fun earlier => watch.instant + earlier * pause⟩ := by
  induction number generalizing watch with
  | zero => simp [Asker.stateAt]
  | succ number induction =>
      have later : ∀ count, watch.instant + (count + 1) * pause =
          watch.instant + pause + count * pause := by
        intro count
        rw [Nat.succ_mul]
        omega
      rw [Asker.stateAt, induction, List.range_succ_eq_map, List.map_cons, List.map_map]
      simp [Asker.amid, look, pass, later, Function.comp_def]

theorem answerAt_look (number : Nat) :
    ((look schedule fleet berth).amid (pass pause)).answerAt start number =
      ((schedule.fleetAt fleet (number * pause)).answer berth).1 := by
  rw [Asker.answerAt, stateAt_look, start, Nat.zero_add]
  rfl

theorem settles_answerAt_look_iff (number : Nat) :
    (((look schedule fleet berth).amid (pass pause)).answerAt start number).settles ↔
      (schedule.fleetAt fleet (number * pause)).Decided berth := by
  rw [answerAt_look, Fleet.settles_answer_iff]

theorem looks_stateAt_look (number : Nat) :
    (((look schedule fleet berth).amid (pass pause)).stateAt start number).looks =
      (List.range number).map fun earlier => earlier * pause := by
  rw [stateAt_look]
  simp [start]

end Watch

/-! ## The main statement -/

namespace Config

theorem consult_wait {state : Type} (config : Config) (ask : Asker state) (unpaused : Nat)
    (current : state) {ending : Ending} {elapsed asked : Nat} {events : List Event} {last : state}
    (waits : Wait.run ask config.patience unpaused current =
      ⟨ending, elapsed, asked, events, last⟩) :
    config.consult ask unpaused .wait current = (.waited ending elapsed, events, last) := by
  simp only [consult, waits]

/--
A wait on an engine that follows a schedule.  Its questions are put at the start
and after each pause, and nowhere else; the first of these instants at which the
engine is gone, stopped or has a lead decides, and if there is none the timeout
does.  A leader that is returned leads at the instant of return, and as long as
hosts leave it at that all decisions are about the same leader.  A pause lasts
thirty years at most; one that is not longer fits as often as it goes into the
timeout.
-/
theorem wait_on_schedule (config : Config) (schedule : Schedule) (fleet : Fleet) (berth : Berth)
    (unpaused : Nat) (accepted : config.validate = .ok ())
    (inRange : overflowsClock
      (config.patience.timeout.nanoseconds + config.patience.pause.nanoseconds) = false) :
    let pause := config.patience.pauseTaken
    let fleetAt := fun number => schedule.fleetAt fleet (number * pause)
    let watching := (Watch.look schedule fleet berth).amid (Watch.pass pause)
    (config.patience.pause.nanoseconds ≤ longestPause →
      pause = config.patience.pause.nanoseconds ∧
        config.patience.pauses =
          config.patience.timeout.nanoseconds / config.patience.pause.nanoseconds) ∧
    ∃ number ≤ config.patience.pauses, ∃ answer events watch,
      config.consult watching unpaused .wait .start =
          (.waited (.answered answer) (number * pause), events, watch) ∧
        watch.looks = (List.range (number + 1)).map (fun earlier => earlier * pause) ∧
        (∀ earlier < number, ¬(fleetAt earlier).Decided berth) ∧
        (((fleetAt number).live? berth = none ∧
            answer = .error (.engineUnavailable "raft server dropped")) ∨
          (∃ slot, (fleetAt number).live? berth = some slot ∧ slot.engine.phase = .stopped ∧
            answer = .error (.engineUnavailable "raft server stopped")) ∨
          (∃ slot, (fleetAt number).live? berth = some slot ∧ slot.engine.phase ≠ .stopped ∧
            slot.engine.lead ≠ nobody ∧ answer = .ok ⟨slot.engine.lead⟩ ∧
            ∀ later looks, number * pause ≤ later →
              schedule.between (number * pause) later = [] →
              (config.consult watching unpaused .isLeader ⟨later, looks⟩).1 =
                  .isLeader (config.isLeader answer) ∧
                (config.consult watching unpaused .ensureLeader ⟨later, looks⟩).1 =
                  .checked (config.ensureLeader answer) ∧
                (config.consult watching unpaused .route ⟨later, looks⟩).1 =
                  .route (config.route answer).1 ∧
                (config.consult watching unpaused .status ⟨later, looks⟩).1 =
                  .status (config.status answer)) ∨
          (number = config.patience.pauses ∧ ¬(fleetAt number).Decided berth ∧
            answer = .error (.timeout ("no leader after " ++ config.patience.timeout.text ++
              ": No leader is currently known")))) := by
  intro pause fleetAt watching
  have pausing : 0 < config.patience.pause.nanoseconds :=
    Nat.lt_of_lt_of_le (by decide) (validate_eq_ok_iff.mp accepted).unhurried
  have answers : ∀ number, watching.answerAt .start number = ((fleetAt number).answer berth).1 :=
    Watch.answerAt_look schedule fleet berth pause
  have settles : ∀ number, (watching.answerAt .start number).settles ↔
      (fleetAt number).Decided berth :=
    Watch.settles_answerAt_look_iff schedule fleet berth pause
  refine ⟨fun short => ⟨Patience.pauseTaken_of_le short, Patience.pauses_of_le pausing short⟩, ?_⟩
  obtain ⟨number, inTime, answer, outcome, unsettled, decision⟩ :=
    Wait.run_cases watching unpaused .start inRange pausing
  refine ⟨number, inTime, answer, _, _, consult_wait config watching unpaused .start outcome,
    Watch.looks_stateAt_look schedule fleet berth pause (number + 1),
    fun earlier before => (settles earlier).not.mp (unsettled earlier before), ?_⟩
  rw [settles, answers] at decision
  rcases decision with ⟨decided, rfl⟩ | ⟨last, undecided, fault, answered, rfl⟩
  · rcases (fleetAt number).answer_cases berth with ⟨gone, told⟩ | ⟨slot, alive, kind⟩
    · exact .inl ⟨gone, told⟩
    rcases kind with ⟨stopped, told⟩ | ⟨running, leaderless, -⟩ | ⟨running, known, told⟩
    · exact .inr (.inl ⟨slot, alive, stopped, told⟩)
    · exact absurd leaderless ((decided slot alive).resolve_left running)
    · refine .inr (.inr (.inl ⟨slot, alive, running, known, told, ?_⟩))
      intro later looks after idle
      have unchanged : schedule.fleetAt fleet later = fleetAt number :=
        schedule.fleetAt_of_idle fleet after idle
      refine consult_of_answer config watching unpaused ?_
      exact congrArg (fun fleet => (fleet.answer berth).1) unchanged
  · rw [(fleetAt number).answer_of_undecided berth undecided] at answered
    obtain rfl : .noLeader = fault := Except.error.inj answered
    exact .inr (.inr (.inr ⟨last, undecided, congrArg _ config.patience.timeoutFault_noLeader⟩))

/-- A fleet of one engine that was just made. -/
def lone : Fleet :=
  [⟨.hosted (.fresh (.ofNat 1)), 1⟩]

/-- Between two looks somebody leads, between two others the engine is stopped. -/
def flickering : Schedule where
  entries :=
    [(0, 0, .commanded .start), (30000000, 0, .commanded (.publish 7)),
      (60000000, 0, .commanded (.publish 0)), (110000000, 0, .commanded .stop),
      (190000000, 0, .commanded .start), (200000000, 0, .commanded (.publish 9))]
  ordered := by decide

def brief : Config :=
  { Config.standard with patience := ⟨.ofMilliseconds 250, Patience.standard.pause⟩ }

theorem wait_on_schedule_flickering :
    brief.validate = .ok () ∧
      overflowsClock (brief.patience.timeout.nanoseconds + brief.patience.pause.nanoseconds) =
        false ∧
      ∃ events watch,
        brief.consult ((Watch.look flickering lone 0).amid (Watch.pass 100000000)) 0 .wait .start =
            (.waited (.answered (.ok ⟨9⟩)) 200000000, events, watch) ∧
          watch.looks = [0, 100000000, 200000000] := by
  have accepted : brief.validate = .ok () := by decide
  have inRange : overflowsClock
      (brief.patience.timeout.nanoseconds + brief.patience.pause.nanoseconds) = false := by decide
  refine ⟨accepted, inRange, ?_⟩
  obtain ⟨-, number, inTime, answer, events, watch, outcome, looks, unsettled, found⟩ :=
    wait_on_schedule brief flickering lone 0 0 accepted inRange
  have atLast : (flickering.fleetAt lone (2 * 100000000)).live? 0 =
      some ⟨.hosted ⟨.ofNat 1, 9, .running, 3⟩, 1⟩ := by decide
  have decided : (flickering.fleetAt lone (2 * 100000000)).Decided 0 := by decide
  have undecided : ∀ early < 2, ¬(flickering.fleetAt lone (early * 100000000)).Decided 0 := by
    decide
  have notBefore : ¬number < 2 := by
    intro before
    rcases found with ⟨gone, -⟩ | ⟨slot, alive, stopped, -⟩ | ⟨slot, alive, -, known, -⟩ | ⟨last, -⟩
    · exact undecided number before (Fleet.decided_of_gone gone)
    · exact undecided number before (Fleet.decided_of_alive alive (.inl stopped))
    · exact undecided number before (Fleet.decided_of_alive alive (.inr known))
    · exact absurd (last ▸ before) (by decide)
  obtain rfl : number = 2 := Nat.le_antisymm inTime (Nat.le_of_not_lt notBefore)
  rcases found with ⟨gone, -⟩ | ⟨slot, alive, stopped, -⟩ | ⟨slot, alive, -, -, rfl, -⟩ |
    ⟨-, undecided, -⟩
  · exact absurd (atLast.symm.trans gone) (by simp)
  · obtain rfl := Option.some.inj (atLast.symm.trans alive)
    exact absurd stopped (by decide)
  · obtain rfl := Option.some.inj (atLast.symm.trans alive)
    exact ⟨events, watch, outcome, looks⟩
  · exact absurd decided undecided

/--
With a pause of more than thirty years there is a look that would not be there if
the pause lasted, and it finds a leader.
-/
theorem longPause_meets_leader :
    let patience : Patience := ⟨.ofMilliseconds 1892160001000, .ofMilliseconds 946080001000⟩
    let config : Config := { Config.standard with patience := patience }
    let schedule : Schedule :=
      ⟨[(0, 0, .commanded .start), (1892160000000000000, 0, .commanded (.publish 7))], by decide⟩
    let watching := (Watch.look schedule lone 0).amid (Watch.pass patience.pauseTaken)
    config.validate = .ok () ∧
      overflowsClock (patience.timeout.nanoseconds + patience.pause.nanoseconds) = false ∧
      (∀ number ≤ patience.timeout.nanoseconds / patience.pause.nanoseconds,
        ¬(schedule.fleetAt lone (number * patience.pause.nanoseconds)).Decided 0) ∧
      (config.consult watching 0 .wait .start).1 =
        .waited (.answered (.ok ⟨7⟩)) 1892160000000000000 := by
  refine ⟨by decide, by decide, by decide, rfl⟩

end Config

end Leadership
