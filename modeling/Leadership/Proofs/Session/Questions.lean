import Leadership.Proofs.Session.Answers

/-!
# Runs without some of their questions

A question leaves a session as it is, whoever is asked and whatever the answer.
So questions can be left out of a run of hosts and observers: everybody else is
told the same, reports the same, and finds the same engines.  Two questions next
to each other can change places.
-/

namespace Leadership

/-- A step that only asks: a question to a query, or a consultation of a router. -/
def Step.isQuestion : Step → Bool
  | .ask .. | .consult .. => true
  | _ => false

/-- The items of a list whose places are kept. -/
def keep {item : Type} (kept : Nat → Bool) (items : List item) : List item :=
  (items.zipIdx.filter fun entry => kept entry.2).map Prod.fst

section Keep

variable {item : Type} (kept : Nat → Bool)

@[simp]
theorem keep_nil : keep kept ([] : List item) = [] :=
  rfl

theorem keep_cons (first : item) (items : List item) :
    keep kept (first :: items) =
      if kept 0 then first :: keep (fun place => kept (place + 1)) items
      else keep (fun place => kept (place + 1)) items := by
  have others : ((items.zipIdx 1).filter fun entry => kept entry.2).map Prod.fst =
      keep (fun place => kept (place + 1)) items := by
    rw [keep, ← Nat.zero_add 1, List.zipIdx_succ, List.filter_map, List.map_map]
    rfl
  rw [keep, List.zipIdx_cons, List.filter_cons]
  split_ifs with first
  · rw [List.map_cons, others]
  · exact others

end Keep

namespace Session

/-! ## One question -/

/-- A question leaves a session as it is, if no query has a memory. -/
theorem perform_question {session : Session} {step : Step} (asks : step.isQuestion)
    (noCells : session.world.cells = []) : (session.perform step).2.2 = session := by
  have unchanged : (session.act step).2.2 = session := by
    cases step with
    | ask name references =>
        rw [act, withName]
        cases session.queries.lookup name with
        | none => rfl
        | some query =>
            have steady := World.ask_steadyAt noCells query
            simp only [Asker.through_eq, show (World.ask query session.world).2.2 = _ from steady]
    | consult name matter =>
        rw [act, withName]
        cases session.routers.lookup name with
        | none => rfl
        | some router =>
            have steady := World.ask_steadyAt noCells router.query
            simp only [Config.consult_state steady router.config (askLimit + 1) matter]
    | _ => contradiction
  change (session.act step).2.2.settle = session
  rw [unchanged, settle_of_noCells noCells]

/-! ## Runs -/

theorem run_cons (step : Step) (steps : List Step) (session : Session) :
    run (step :: steps) session =
      ((session.perform step).1, (session.perform step).2.1) ::
        run steps (session.perform step).2.2 :=
  rfl

theorem length_run (steps : List Step) (session : Session) :
    (run steps session).length = steps.length := by
  induction steps generalizing session with
  | nil => rfl
  | cons step steps induction => rw [run_cons, List.length_cons, induction, List.length_cons]

theorem run_append (earlier later : List Step) (session : Session) :
    run (earlier ++ later) session = run earlier session ++ run later (session.after earlier) := by
  induction earlier generalizing session with
  | nil => rfl
  | cons step earlier induction =>
      rw [List.cons_append, run_cons, run_cons, induction]
      rfl

namespace Orderly

variable {chronicle : Chronicle} {session : Session}

/--
Leaving out questions changes neither what all other steps are told and report
nor the session they lead to.  The induction is on the run, through sessions that
are orderly.
-/
theorem run_keep {steps : List Step} {kept : Nat → Bool} (orderly : session.Orderly [] chronicle)
    (hosting : ∀ step ∈ steps, step.isHosting)
    (spared : ∀ place step, steps[place]? = some step → ¬kept place → step.isQuestion) :
    run (keep kept steps) session = keep kept (run steps session) ∧
      session.after (keep kept steps) = session.after steps := by
  induction steps generalizing session chronicle kept with
  | nil => exact ⟨rfl, rfl⟩
  | cons step steps induction =>
      rw [List.forall_mem_cons] at hosting
      have rest := induction (orderly.perform hosting.1) hosting.2
        (fun place other found => spared (place + 1) other found)
      rw [keep_cons, run_cons, keep_cons]
      split_ifs with first
      · exact ⟨congrArg _ rest.1, rest.2⟩
      · have idle : (session.perform step).2.2 = session :=
          perform_question (spared 0 step rfl first) orderly.noCells
        rw [idle] at rest
        rw [Session.after, idle]
        exact rest

end Orderly

/-- Two questions next to each other are answered alike in either order. -/
theorem run_swap {session : Session} (noCells : session.world.cells = []) {first second : Step}
    (asksFirst : first.isQuestion) (asksSecond : second.isQuestion) (later : List Step) :
    ∃ one other behind,
      run (first :: second :: later) session = one :: other :: behind ∧
        run (second :: first :: later) session = other :: one :: behind := by
  have idleFirst := perform_question asksFirst noCells
  have idleSecond := perform_question asksSecond noCells
  refine ⟨((session.perform first).1, (session.perform first).2.1),
    ((session.perform second).1, (session.perform second).2.1), run later session, ?_, ?_⟩
  · rw [run_cons, run_cons, idleFirst, idleSecond]
  · rw [run_cons, run_cons, idleSecond, idleFirst]

/-! ## The main statement -/

/--
Questions can be left out of a run of hosts and observers, any of them and as
many as one likes.  The replies and events of all other steps stay what they are,
and so does the session, with all engines, at every point of the run.  Two
questions next to each other can change places, and each keeps its answer.
-/
theorem run_without_questions (steps : List Step) (kept : Nat → Bool)
    (hosting : ∀ step ∈ steps, step.isHosting)
    (spared : ∀ place step, steps[place]? = some step → ¬kept place → step.isQuestion) :
    run (keep kept steps) empty = keep kept (run steps empty) ∧
      (∀ count, empty.after (keep kept (steps.take count)) = empty.after (steps.take count)) ∧
      ∀ earlier first second later, steps = earlier ++ first :: second :: later →
        first.isQuestion → second.isQuestion →
        ∃ before one other behind, before.length = earlier.length ∧
          run steps empty = before ++ one :: other :: behind ∧
          run (earlier ++ second :: first :: later) empty = before ++ other :: one :: behind := by
  refine ⟨(Orderly.empty.run_keep hosting spared).1, ?_, ?_⟩
  · intro count
    refine (Orderly.empty.run_keep ?_ ?_).2
    · exact fun step taken => hosting step (List.mem_of_mem_take taken)
    · intro place step found dropped
      rw [List.getElem?_take] at found
      split_ifs at found
      exact spared place step found dropped
  · rintro earlier first second later rfl asksFirst asksSecond
    have orderly : (empty.after earlier).Orderly [] (empty.chronicle earlier) :=
      Orderly.empty.after fun step before => hosting step (List.mem_append_left _ before)
    obtain ⟨one, other, behind, straight, swapped⟩ :=
      run_swap orderly.noCells asksFirst asksSecond later
    refine ⟨run earlier empty, one, other, behind, length_run earlier empty, ?_, ?_⟩
    · rw [run_append, straight]
    · rw [run_append, swapped]

/--
Questions to an engine, to an observer of it and through a router, around a lead
that a router does not know and right before the last handle is released.
-/
def inquisitiveRun : List Step :=
  [.launch "host" (.hosted (.fresh (.ofNat 1))), .observe "watch" "host", .ask "watch" [],
    .router "router" "watch" none, .command "host" (.publish 7), .consult "router" .route,
    .ask "watch" [.owned], .release "host", .consult "router" .isLeader]

theorem run_without_questions_inquisitive :
    (∀ step ∈ inquisitiveRun, step.isHosting) ∧
      run (keep (fun place => place < 2 ∨ place = 3 ∨ place = 4 ∨ 7 ≤ place) inquisitiveRun)
          empty =
        keep (fun place => place < 2 ∨ place = 3 ∨ place = 4 ∨ 7 ≤ place)
          (run inquisitiveRun empty) := by
  have hosting : ∀ step ∈ inquisitiveRun, step.isHosting := by decide
  refine ⟨hosting, (run_without_questions inquisitiveRun _ hosting ?_).1⟩
  intro place step found dropped
  have asked : place = 2 ∨ place = 5 ∨ place = 6 := by
    simp only [decide_eq_true_eq] at dropped
    omega
  rcases asked with rfl | rfl | rfl <;> cases found <;> rfl

end Session

end Leadership
