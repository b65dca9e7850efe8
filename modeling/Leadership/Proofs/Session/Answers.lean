import Leadership.Proofs.Session.Hosting

/-!
# Answers over whole runs

An observer answers by the history of its engine and by nothing else.  The main
statement places a question anywhere in a run of hosts and observers; the replies
of the run around it do not matter.
-/

namespace Leadership

namespace Session

/-! ## Runs in parts -/

theorem chronicle_append (earlier later : List Step) (session : Session) :
    session.chronicle (earlier ++ later) =
      session.chronicle earlier ++ (session.after earlier).chronicle later := by
  induction earlier generalizing session with
  | nil => rfl
  | cons step earlier induction =>
      rw [List.cons_append, chronicle, chronicle, induction, List.append_assoc]
      rfl

theorem history_append (berth : Berth) (earlier later : List Step) :
    history berth (earlier ++ later) =
      history berth earlier ++
        Chronicle.history berth ((empty.after earlier).chronicle later) := by
  rw [history, chronicle_append, Chronicle.history_append]
  rfl

theorem getElem?_run (earlier later : List Step) (step : Step) (session : Session) :
    (run (earlier ++ step :: later) session)[earlier.length]? =
      some (((session.after earlier).perform step).1,
        ((session.after earlier).perform step).2.1) := by
  induction earlier generalizing session with
  | nil => rfl
  | cons first earlier induction => exact induction _

/-! ## Engines that are gone -/

/-- A step works on engines that have a name, and launches a new one. -/
theorem deeds_berth {session : Session} {step : Step} {berth : Berth} {deed : Deed}
    (done : (berth, deed) ∈ session.deeds step) :
    berth ∈ session.handles.map Prod.snd ∨ berth = session.fleet.length := by
  have displaced : ∀ {name : String}, (berth, deed) ∈ session.displacement name →
      berth ∈ session.handles.map Prod.snd := by
    intro name released
    rw [displacement] at released
    cases named : session.handles.lookup name with
    | none => simp [named] at released
    | some old =>
        rw [named, List.mem_singleton] at released
        cases released
        exact Names.mem_of_lookup named
  cases step with
  | launch name engine =>
      cases engine with
      | bare lead => contradiction
      | hosted state =>
          rcases List.mem_cons.mp done with launched | released
          · cases launched
            exact Or.inr rfl
          · exact Or.inl (displaced released)
  | share name source =>
      rw [deeds] at done
      cases named : session.handles.lookup source with
      | none => simp [named] at done
      | some shared =>
          rw [named] at done
          rcases List.mem_cons.mp done with gained | released
          · cases gained
            exact Or.inl (Names.mem_of_lookup named)
          · exact Or.inl (displaced released)
  | command name command =>
      rw [deeds] at done
      cases named : session.handles.lookup name with
      | none => simp [named] at done
      | some commanded =>
          rw [named, List.mem_singleton] at done
          cases done
          exact Or.inl (Names.mem_of_lookup named)
  | release name => exact Or.inl (displaced done)
  | _ => contradiction

namespace Orderly

variable {chronicle : Chronicle} {session : Session} {berth : Berth}

theorem history_ne_nil (orderly : session.Orderly [] chronicle)
    (known : berth < session.fleet.length) :
    chronicle.history berth ≠ [] := by
  intro nothing
  have recorded := orderly.recorded.slots berth
  rw [nothing, List.getElem?_eq_getElem known] at recorded
  contradiction

/-- Nobody can do anything more to an engine that was launched and is gone. -/
theorem history_deeds_of_gone {step : Step} (orderly : session.Orderly [] chronicle)
    (launched : chronicle.history berth ≠ []) (gone : (chronicle.history berth).handles = 0) :
    Chronicle.history berth (session.deeds step) = [] := by
  rw [Chronicle.history, List.filterMap_eq_nil_iff]
  rintro ⟨other, deed⟩ done
  rw [if_neg]
  rintro rfl
  rcases deeds_berth done with named | newest
  · rw [← List.count_pos_iff] at named
    have counted := orderly.counted other
    rw [List.append_nil, gone] at counted
    exact Nat.ne_of_gt named counted
  · exact launched (orderly.recorded.unlaunched other (Nat.le_of_eq newest.symm))

theorem history_chronicle_of_gone {steps : List Step} (orderly : session.Orderly [] chronicle)
    (launched : chronicle.history berth ≠ []) (gone : (chronicle.history berth).handles = 0)
    (hosting : ∀ step ∈ steps, step.isHosting) :
    Chronicle.history berth (session.chronicle steps) = [] := by
  induction steps generalizing session chronicle with
  | nil => rfl
  | cons step steps induction =>
      rw [List.forall_mem_cons] at hosting
      have idle : Chronicle.history berth (session.deeds step) = [] :=
        orderly.history_deeds_of_gone launched gone
      have same : Chronicle.history berth (chronicle ++ session.deeds step) =
          chronicle.history berth := by
        rw [Chronicle.history_append, idle, List.append_nil]
      rw [Session.chronicle, Chronicle.history_append, idle, List.nil_append]
      exact induction (orderly.perform hosting.1) (same ▸ launched) (same ▸ gone) hosting.2

/-- Whoever asks an observer is told what the history of its engine says. -/
theorem ask_observer (orderly : session.Orderly [] chronicle) (references : List Reference) :
    ((World.ask (.observer berth)).through references session.world).1 =
      (chronicle.history berth).answer := by
  rw [Asker.through_eq]
  exact orderly.recorded.answer berth

end Orderly

/-! ## The main statement -/

/--
In a run of hosts and observers, a question to an observer is answered by the
history of the observed engine.  Handles are counted by the names of hosts, so
observers are none; an engine without handles is gone for good; and a step that
does nothing to the engine does not change the answer.
-/
theorem run_ask_observer (earlier later : List Step) (name : String)
    (references : List Reference) (berth : Berth)
    (hosting : ∀ step ∈ earlier, step.isHosting)
    (observes : (empty.after earlier).queries.lookup name = some (.observer berth)) :
    (run (earlier ++ .ask name references :: later) empty)[earlier.length]?.map Prod.fst =
        some (.answer (history berth earlier).answer) ∧
      (history berth earlier).answer ≠ .ok ⟨nobody⟩ ∧
      (history berth earlier).handles =
        ((empty.after earlier).handles.map Prod.snd).count berth ∧
      ((history berth earlier).handles = 0 →
        ∀ further : List Step, (∀ step ∈ further, step.isHosting) →
          (history berth (earlier ++ further)).answer =
            .error (.engineUnavailable "raft server dropped")) ∧
      ∀ step : Step, (∀ entry ∈ (empty.after earlier).deeds step, entry.1 ≠ berth) →
        history berth (earlier ++ [step]) = history berth earlier := by
  have orderly : (empty.after earlier).Orderly [] (empty.chronicle earlier) :=
    Orderly.empty.after hosting
  refine ⟨?_, History.answer_ne_nobody _, ?_, ?_, ?_⟩
  · have answered :
        ((World.ask (.observer berth)).through references (empty.after earlier).world).1 =
          (history berth earlier).answer :=
      orderly.ask_observer references
    rw [getElem?_run, Option.map_some, perform, act, withName, observes]
    exact congrArg (fun answer => some (Reply.answer answer)) answered
  · rw [history, ← orderly.counted berth, List.append_nil]
  · intro gone further later
    have known := orderly.moored berth (Or.inr (Names.mem_of_lookup observes))
    have idle := orderly.history_chronicle_of_gone (orderly.history_ne_nil known) gone later
    rw [history_append, idle, List.append_nil, History.answer, if_pos gone]
  · intro step elsewhere
    rw [history_append, chronicle, chronicle, List.append_nil]
    have idle : Chronicle.history berth ((empty.after earlier).deeds step) = [] := by
      rw [Chronicle.history, List.filterMap_eq_nil_iff]
      intro entry done
      rw [if_neg (elsewhere entry done)]
    rw [idle, List.append_nil]

/--
Two engines, one of them with a lead from before its start, stopped and started
again while the other is commanded, and asked through a copy of an observer.
-/
def restartedRun : List Step :=
  [.launch "first" (.hosted (.fresh (.ofNat 1))), .launch "second" (.hosted (.fresh (.ofNat 2))),
    .command "first" (.publish 7), .observe "watch" "first", .command "first" .stop,
    .command "second" (.publish 9), .copyObserver "copy" "watch", .command "first" .start,
    .share "other" "first", .release "first"]

theorem run_ask_observer_restarted :
    (run (restartedRun ++ .ask "copy" [.shared] :: []) empty)[10]?.map Prod.fst =
      some (.answer (.ok ⟨7⟩)) :=
  (run_ask_observer restartedRun [] "copy" [.shared] 0 (by decide) (by decide)).1

end Session

end Leadership
