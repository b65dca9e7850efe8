import Leadership.Proofs.Fleet.Calls
import Leadership.Proofs.Session.Questions
import Leadership.Proofs.Wait.Polls

/-!
# Calls in runs

Engines are called by their hosts, and by elections whenever somebody asks them.  A
router asks as often as its matter takes, and a wait as often as it polls.  The calls
of a step are found by following these questions; every step, and so every run,
is a part of a run with these calls, whatever else it does.
-/

namespace Leadership

/-! ## Questions -/

/-- How many questions a consultation takes. -/
def Config.questions {state : Type} (config : Config) (ask : Asker state) (unpaused : Nat)
    (matter : Matter) (current : state) : Nat :=
  match matter with
  | .config | .validity => 0
  | .wait => (Wait.run ask config.patience unpaused current).asked
  | _ => 1

namespace Wait

theorem shifts_pausedLines (taken : List Telling) :
    (pausedLines taken).filterMap Event.shift? =
      (taken.flatMap Prod.snd).filterMap Event.shift? := by
  induction taken with
  | nil => rfl
  | cons telling taken induction =>
      have silent : (pauseLine telling.1).filterMap Event.shift? = [] := by
        cases telling.1 <;> rfl
      rw [pausedLines, List.flatMap_cons, ← pausedLines, List.filterMap_append,
        List.filterMap_append, silent, List.append_nil, induction, List.flatMap_cons,
        List.filterMap_append]

/-- A wait adds no changes to those that it is told of. -/
theorem Polled.shifts {patience : Patience} {unpaused : Nat} {taken : List Telling}
    {ending : Ending} {elapsed : Nat} {events : List Event}
    (polled : Polled patience unpaused taken ending elapsed events) :
    events.filterMap Event.shift? = (taken.flatMap Prod.snd).filterMap Event.shift? := by
  cases polled with
  | hidden => rfl
  | ended =>
      rw [List.filterMap_append, shifts_pausedLines, List.flatMap_append, List.filterMap_append,
        List.flatMap_singleton]
  | unfinished => exact shifts_pausedLines taken

end Wait

namespace Config

variable {state : Type}

theorem shifts_route (config : Config) (answer : Answer) :
    (config.route answer).2.filterMap Event.shift? = [] := by
  cases answer with
  | error fault => rfl
  | ok leader =>
      simp only [route]
      split_ifs
      · rfl
      · cases config.member? leader <;> rfl

/-- A decision that reports no change takes one question, and so does it lead where that leads. -/
theorem decideBy_questions {decide : Answer → Finding × List Event}
    (silent : ∀ answer, (decide answer).2.filterMap Event.shift? = []) (ask : Asker state)
    (current : state) :
    (decideBy decide ask current).2.2 = ask.stateAt current 1 ∧
      (decideBy decide ask current).2.1.filterMap Event.shift? =
        ((ask.tellings current 1).flatMap Prod.snd).filterMap Event.shift? := by
  refine ⟨rfl, ?_⟩
  rw [ask.tellings_one, List.flatMap_singleton, decideBy, List.filterMap_append, silent,
    List.append_nil]

/-- A consultation leads to where its questions lead, and adds no changes. -/
theorem consult_questions (config : Config) (ask : Asker state) (unpaused : Nat)
    (matter : Matter) (current : state) :
    (config.consult ask unpaused matter current).2.2 =
        ask.stateAt current (config.questions ask unpaused matter current) ∧
      (config.consult ask unpaused matter current).2.1.filterMap Event.shift? =
        ((ask.tellings current (config.questions ask unpaused matter current)).flatMap
          Prod.snd).filterMap Event.shift? := by
  cases matter with
  | config => exact ⟨rfl, rfl⟩
  | validity => exact ⟨rfl, rfl⟩
  | wait =>
      obtain ⟨count, ending, elapsed, events, polled⟩ :=
        Wait.exists_polled config.patience unpaused ask current
      have outcome := polled.run ask current (by rw [ask.length_tellings])
      rw [ask.length_tellings] at outcome
      simp only [consult, questions, outcome, true_and]
      exact polled.shifts
  | isLeader => exact decideBy_questions (fun _ => rfl) ask current
  | ensureLeader => exact decideBy_questions (fun _ => rfl) ask current
  | route => exact decideBy_questions config.shifts_route ask current
  | status => exact decideBy_questions (fun _ => rfl) ask current
  | statusText => exact decideBy_questions (fun _ => rfl) ask current

end Config

/-! ## Elections -/

/-- The call that an election makes with its next move. -/
def Election.calls (election : Election) (fleet : Fleet) : List Call :=
  match election.holds, election.moves.head? with
  | true, some (.command command) => fleet.call election.berth command
  | _, _ => []

theorem Election.led_move (election : Election) (fleet : Fleet) :
    fleet.Led (election.calls fleet) (election.move fleet).2.2 (election.move fleet).2.1 := by
  rw [calls, move]
  cases election.holds with
  | false => exact fleet.led_silent rfl
  | true =>
      cases election.moves.head? with
      | none => exact fleet.led_silent rfl
      | some next =>
          cases next with
          | command command => exact Fleet.led_command election.berth command
          | release => exact (Fleet.keeps_release election.berth).led rfl
          | pass => exact fleet.led_silent rfl

namespace World

/-- The calls that are made when a query is asked. -/
def calls (query : Query) (world : World) : List Call :=
  match query with
  | .cell place =>
      match world.cells[place]? with
      | some (.election election) =>
          if election.left = 0 then [] else election.calls world.fleet
      | _ => []
  | _ => []

/-- Whoever asks a query makes its calls. -/
theorem led_ask (query : Query) (world : World) :
    world.fleet.Led (calls query world) (ask query world).2.1 (ask query world).2.2.fleet := by
  cases query with
  | observer berth => exact world.fleet.led_answer berth
  | fixed leader => cases leader <;> exact world.fleet.led_silent rfl
  | cell place =>
      simp only [calls, ask, askCell]
      cases world.cells[place]? with
      | none => exact world.fleet.led_silent rfl
      | some cell =>
          cases cell with
          | script script => exact world.fleet.led_silent rfl
          | election election =>
              by_cases exhausted : election.left = 0
              · simp only [if_pos exhausted]
                exact world.fleet.led_silent rfl
              · simp only [if_neg exhausted]
                have moved := election.led_move world.fleet
                have answered := Fleet.led_answer (election.move world.fleet).2.1 election.berth
                have told := moved.trans answered
                rwa [List.append_nil] at told

/-- Questions one after the other make the calls of each. -/
theorem led_tellings (query : Query) (world : World) (count : Nat) :
    world.fleet.Led
      ((List.range count).flatMap fun number => calls query ((ask query).stateAt world number))
      (((ask query).tellings world count).flatMap Prod.snd)
      ((ask query).stateAt world count).fleet := by
  induction count with
  | zero => exact world.fleet.led_silent rfl
  | succ count induction =>
      have last := led_ask query ((ask query).stateAt world count)
      rw [List.range_succ, List.flatMap_append, List.flatMap_singleton, Asker.tellings_succ,
        List.flatMap_append, List.flatMap_singleton, Asker.stateAt_add]
      exact induction.trans last

/-- Nobody's engine changes when a cell is retired. -/
theorem keeps_retireCell (place : Nat) (world : World) :
    world.fleet.Keeps (world.retireCell place).fleet := by
  rw [retireCell]
  cases world.cells[place]? with
  | none => exact .refl
  | some cell =>
      cases cell with
      | script script => exact .refl
      | election election =>
          simp only
          split_ifs
          · exact Fleet.keeps_release election.berth
          · exact .refl

theorem keeps_retireAllBut (queries : List Query) (world : World) :
    world.fleet.Keeps (world.retireAllBut queries).fleet := by
  rw [retireAllBut]
  generalize (List.range world.cells.length).filter _ = places
  induction places generalizing world with
  | nil => exact .refl
  | cons place places induction =>
      exact (world.keeps_retireCell place).trans (induction (world.retireCell place))

end World

/-! ## Steps -/

namespace Session

/-- The calls of a step. -/
def calls (session : Session) : Step → List Call
  | .command name command =>
      match session.handles.lookup name with
      | some berth => session.fleet.call berth command
      | none => []
  | .ask name _ =>
      match session.queries.lookup name with
      | some query => World.calls query session.world
      | none => []
  | .consult name matter =>
      match session.routers.lookup name with
      | some router =>
          let ask := World.ask router.query
          let count := router.config.questions ask (askLimit + 1) matter session.world
          (List.range count).flatMap fun number =>
            World.calls router.query (ask.stateAt session.world number)
      | none => []
  | _ => []

/-- All calls of some steps, in their order. -/
def allCalls : List Step → Session → List Call
  | [], _ => []
  | step :: steps, session => session.calls step ++ allCalls steps (session.perform step).2.2

/-- All that some steps log, in their order. -/
def log (steps : List Step) (session : Session) : List Event :=
  (run steps session).flatMap Prod.snd

theorem keeps_nameHandle (session : Session) (name : String) (berth : Berth) :
    session.fleet.Keeps (session.nameHandle name berth).fleet := by
  rw [nameHandle]
  cases session.handles.lookup name with
  | none => exact .refl
  | some old => exact Fleet.keeps_release old

/-- A step is a part of a run with its calls. -/
theorem led_act (session : Session) (step : Step) :
    session.fleet.Led (session.calls step) (session.act step).2.1
      (session.act step).2.2.fleet := by
  have idle : session.fleet.Led [] [] session.fleet := session.fleet.led_silent rfl
  cases step with
  | launch name engine =>
      exact ((Fleet.keeps_launch engine).trans
        (keeps_nameHandle (session.withFleet _) name _)).led rfl
  | share name source =>
      rw [act, withName]
      cases session.handles.lookup source with
      | none => exact idle
      | some berth =>
          exact ((Fleet.keeps_share berth).trans
            (keeps_nameHandle (session.withFleet _) name _)).led rfl
  | command name command =>
      rw [act, withName, calls]
      cases session.handles.lookup name with
      | none => exact idle
      | some berth => exact Fleet.led_command berth command
  | inspect name =>
      rw [act, withName]
      cases session.handles.lookup name <;> exact idle
  | release name =>
      rw [act]
      cases session.handles.lookup name with
      | none => exact idle
      | some berth => exact (Fleet.keeps_release berth).led rfl
  | observe name source =>
      rw [act, withName]
      cases session.handles.lookup source <;> exact idle
  | copyObserver name source =>
      rw [act, withName]
      cases session.observers.lookup source <;> exact idle
  | inspectObserver name =>
      rw [act, withName]
      cases session.observers.lookup name <;> exact idle
  | fixed name leader => exact idle
  | script name answers => exact idle
  | elect name source moves =>
      rw [act, withName]
      cases session.handles.lookup source <;> exact idle
  | ask name references =>
      rw [act, withName, calls]
      cases session.queries.lookup name with
      | none => exact idle
      | some query =>
          simp only [Asker.through_eq]
          exact World.led_ask query session.world
  | router name query description =>
      rw [act]
      cases Config.ofDescription description with
      | error mismatch => exact idle
      | ok config =>
          simp only [withName]
          cases session.queries.lookup query <;> exact idle
  | consult name matter =>
      rw [act, withName, calls]
      cases session.routers.lookup name with
      | none => exact idle
      | some router =>
          obtain ⟨reached, reported⟩ := router.config.consult_questions (World.ask router.query)
            (askLimit + 1) matter session.world
          have told := World.led_tellings router.query session.world
            (router.config.questions (World.ask router.query) (askLimit + 1) matter session.world)
          rw [← reached] at told
          exact told.relog reported

theorem led_perform (session : Session) (step : Step) :
    session.fleet.Led (session.calls step) (session.perform step).2.1
      (session.perform step).2.2.fleet := by
  have settled : (session.act step).2.2.fleet.Led [] [] (session.act step).2.2.settle.fleet :=
    (World.keeps_retireAllBut _ _).led rfl
  have performed := (session.led_act step).trans settled
  rwa [List.append_nil, List.append_nil] at performed

/-- Every run is a part of a run with the calls of its steps.  The induction is on the steps. -/
theorem led_run (steps : List Step) (session : Session) :
    session.fleet.Led (session.allCalls steps) (session.log steps)
      (session.after steps).fleet := by
  induction steps generalizing session with
  | nil => exact session.fleet.led_silent rfl
  | cons step steps induction =>
      rw [log, run_cons, List.flatMap_cons]
      exact (session.led_perform step).trans (induction (session.perform step).2.2)

/-- A new engine has the next berth after its launch. -/
theorem exists_launched (session : Session) (name : String) (engine : Engine) :
    ∃ handles, (session.perform (.launch name engine)).2.2.fleet[session.fleet.length]? =
      some ⟨engine, handles⟩ := by
  have placed : (session.fleet.launch engine).1[session.fleet.length]? = some ⟨engine, 1⟩ := by
    simp [Fleet.launch]
  have named := keeps_nameHandle (session.withFleet (session.fleet.launch engine).1) name
    session.fleet.length
  exact (named.trans (World.keeps_retireAllBut _ _)) _ _ placed

/-! ## Runs in parts -/

theorem after_append (earlier later : List Step) (session : Session) :
    session.after (earlier ++ later) = (session.after earlier).after later := by
  induction earlier generalizing session with
  | nil => rfl
  | cons step earlier induction => exact induction (session.perform step).2.2

theorem allCalls_append (earlier later : List Step) (session : Session) :
    session.allCalls (earlier ++ later) =
      session.allCalls earlier ++ (session.after earlier).allCalls later := by
  induction earlier generalizing session with
  | nil => rfl
  | cons step earlier induction =>
      rw [List.cons_append, allCalls, allCalls, induction, List.append_assoc]
      rfl

end Session

end Leadership
