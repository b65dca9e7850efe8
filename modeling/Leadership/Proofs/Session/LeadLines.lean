import Leadership.Proofs.Session.Calls
import Mathlib.Algebra.Group.Nat.Defs

/-!
# Published leads in the log

Hosts publish leads as often as they like, between starts and stops, while other
engines and queries are busy.  The engine counts all of them, and its part of the
log tells those that were new.  The main statement holds of every engine in every
run, elections included.
-/

namespace Leadership

namespace Session

/-- The calls that reach an engine begin after its launch. -/
theorem reaching_allCalls (earlier later : List Step) (name : String) (node : NodeId) :
    let launch : Step := .launch name (.hosted (.fresh node))
    let launched := ((empty.after earlier).perform launch).2.2
    let berth := (empty.after earlier).fleet.length
    Call.reaching berth (empty.allCalls (earlier ++ launch :: later)) =
      Call.reaching berth (launched.allCalls later) := by
  intro launch launched berth
  have elsewhere : ∀ call ∈ empty.allCalls earlier, call.berth ≠ berth :=
    fun call isCall => Nat.ne_of_lt ((empty.led_run earlier).lt_length isCall)
  rw [allCalls_append, Call.reaching_append, Call.reaching_of_ne elsewhere, List.nil_append]
  rfl

/-! ## Hosts and observers -/

/-- Deeds that publish nothing add no leads. -/
theorem leads_of_silent {chronicle : Chronicle} (berth : Berth)
    (silent : ∀ entry ∈ chronicle, entry.2.lead? = none) :
    (chronicle.history berth).leads = [] := by
  rw [History.leads, List.filterMap_eq_nil_iff]
  intro deed done
  obtain ⟨entry, isEntry, chosen⟩ := List.mem_filterMap.mp done
  split_ifs at chosen
  cases chosen
  exact silent entry isEntry

theorem lead?_of_mem_displacement {session : Session} {name : String} :
    ∀ entry ∈ session.displacement name, entry.2.lead? = none := by
  rw [displacement]
  cases session.handles.lookup name with
  | none => simp
  | some berth => simp [Deed.lead?]

theorem calls_of_noCells {world : World} (noCells : world.cells = []) (query : Query) :
    World.calls query world = [] := by
  cases query with
  | cell place => simp [World.calls, noCells]
  | _ => rfl

theorem stateAt_of_steadyAt {state : Type} {ask : Asker state} {current : state}
    (steady : ask.SteadyAt current) (count : Nat) : ask.stateAt current count = current := by
  induction count with
  | zero => rfl
  | succ count induction =>
      rw [Asker.stateAt, show (ask current).2.2 = current from steady, induction]

/-- In a session of hosts and observers, the leads of calls are those of deeds. -/
theorem Orderly.leads_calls {session : Session} {chronicle : Chronicle}
    (orderly : session.Orderly [] chronicle) (step : Step) (berth : Berth) :
    ((Call.reaching berth (session.calls step)).map Call.command).filterMap Command.lead? =
      (Chronicle.history berth (session.deeds step)).leads := by
  cases step with
  | launch name engine =>
      cases engine with
      | bare lead => rfl
      | hosted state =>
          symm
          apply leads_of_silent
          rw [deeds, List.forall_mem_cons]
          exact ⟨rfl, lead?_of_mem_displacement⟩
  | share name source =>
      symm
      apply leads_of_silent
      rw [deeds]
      cases session.handles.lookup source with
      | none => simp
      | some shared =>
          rw [List.forall_mem_cons]
          exact ⟨rfl, lead?_of_mem_displacement⟩
  | release name => exact (leads_of_silent berth lead?_of_mem_displacement).symm
  | command name command =>
      rw [calls, deeds]
      cases named : session.handles.lookup name with
      | none => rfl
      | some commanded =>
          obtain ⟨slot, alive⟩ := Option.isSome_iff_exists.mp (orderly.alive named)
          simp only [Fleet.call, alive]
          rcases eq_or_ne commanded berth with rfl | different
          · simp only [Call.reaching, Chronicle.history, decide_true, List.filter_cons_of_pos,
              List.filter_nil, List.filterMap_cons, if_true, List.filterMap_nil]
            cases command <;> rfl
          · simp [Call.reaching, Chronicle.history, History.leads, different]
  | ask name references =>
      have uncalled : session.calls (.ask name references) = [] := by
        rw [calls]
        cases session.queries.lookup name with
        | none => rfl
        | some query => exact calls_of_noCells orderly.noCells query
      rw [uncalled]
      rfl
  | consult name matter =>
      have uncalled : session.calls (.consult name matter) = [] := by
        rw [calls]
        cases session.routers.lookup name with
        | none => rfl
        | some router =>
            have steady := World.ask_steadyAt orderly.noCells router.query
            simp [stateAt_of_steadyAt steady, calls_of_noCells orderly.noCells]
      rw [uncalled]
      rfl
  | _ => rfl

/-- In a run of hosts and observers, the leads of calls are those of its history. -/
theorem Orderly.leads_allCalls {steps : List Step} {session : Session} {chronicle : Chronicle}
    (orderly : session.Orderly [] chronicle) (hosting : ∀ step ∈ steps, step.isHosting)
    (berth : Berth) :
    ((Call.reaching berth (session.allCalls steps)).map Call.command).filterMap Command.lead? =
      (Chronicle.history berth (session.chronicle steps)).leads := by
  induction steps generalizing session chronicle with
  | nil => rfl
  | cons step steps induction =>
      rw [List.forall_mem_cons] at hosting
      have first := orderly.leads_calls step berth
      have others := induction (orderly.perform hosting.1) hosting.2
      rw [allCalls, Session.chronicle, Call.reaching_append, List.map_append,
        List.filterMap_append, first, others, Chronicle.history_append]
      exact (List.filterMap_append ..).symm

/-! ## The main statement -/

/--
An engine that is launched anywhere in a run.  It counts all leads that are
published to it, in a 64-bit word.  The lines about its lead are a path of changes
from nobody to its lead, and the leads they end at are those that were published,
without repetitions and without absences at first.  The changes in the log of the
whole run are those of all calls; where no other engine has its node, those of the
node are those of the engine.  In a run of hosts and observers the leads are those
of its history.
-/
theorem run_lead_lines (earlier later : List Step) (name : String) (node : NodeId) :
    let steps := earlier ++ .launch name (.hosted (.fresh node)) :: later
    let berth := (empty.after earlier).fleet.length
    let fleet := (empty.after steps).fleet
    let calls := Call.reaching berth (empty.allCalls steps)
    let published := (calls.map Call.command).filterMap Command.lead?
    let lines := (calls.flatMap Call.events).map Event.message
    let shifts := lines.filterMap Shift.ofLine?
    let logged := ((empty.log steps).map Event.message).filterMap Shift.ofLine?
    ∃ state handles, fleet[berth]? = some ⟨.hosted state, handles⟩ ∧
      state.node = node ∧
      state.publications.toNat = published.length % 2 ^ 64 ∧
      Shift.Path node nobody shifts state.lead ∧
      state.lead = published.getLast?.getD nobody ∧
      shifts.map Shift.current =
        (published.dropWhile (· = nobody)).destutter (· ≠ ·) ∧
      logged = ((empty.allCalls steps).flatMap Call.events).filterMap Event.shift? ∧
      ((∀ (other : Berth) (slot : Slot), other ≠ berth → fleet[other]? = some slot →
          slot.engine.node? ≠ some node) →
        logged.filter (fun shift => shift.node = node) = shifts) ∧
      ((∀ step ∈ steps, step.isHosting) → published = (history berth steps).leads) := by
  intro steps berth fleet calls published lines shifts logged
  let launched := ((empty.after earlier).perform (.launch name (.hosted (.fresh node)))).2.2
  have ended : fleet = (launched.after later).fleet := by
    change (empty.after steps).fleet = _
    rw [after_append]
    rfl
  have same : calls = Call.reaching berth (launched.allCalls later) :=
    reaching_allCalls earlier later name node
  have led := launched.led_run later
  obtain ⟨held, placed⟩ := exists_launched (empty.after earlier) name (.hosted (.fresh node))
  obtain ⟨handles, reached⟩ := led.engines berth _ placed
  have reports := led.reports berth _ placed
  obtain ⟨state, events, obeyed, named, lead, publications, told⟩ :=
    Engine.obeyAll_hosted (calls.map Call.command) (.fresh node)
  rw [← same] at reached reports
  simp only [obeyed] at reached reports
  have read : shifts = Shift.trail node nobody published := by
    change ((calls.flatMap Call.events).map Event.message).filterMap Shift.ofLine? = _
    rw [reports, Shift.filterMap_ofLine?, told]
    rfl
  have present : fleet[berth]? = some ⟨.hosted state, handles⟩ := ended ▸ reached
  have asLogged : logged = (empty.log steps).filterMap Event.shift? := Shift.filterMap_ofLine? _
  refine ⟨state, handles, present, named, ?_, ?_, lead, ?_, ?_, ?_, ?_⟩
  · rw [publications, UInt64.toNat_add, UInt64.toNat_ofNat']
    exact Nat.zero_add _ ▸ Nat.mod_mod _ _
  · rw [read, lead]
    exact Shift.path_trail published
  · rw [read, Shift.map_current_trail_nobody]
  · rw [asLogged, (empty.led_run steps).logged]
  · intro alone
    have own : (Engine.hosted state).node? = some node := congrArg some named
    rw [asLogged, (empty.led_run steps).shifts_of_node present own alone]
    exact (Shift.filterMap_ofLine? _).symm
  · exact fun hosting => Orderly.empty.leads_allCalls hosting berth

/-- An engine that its host commands, and then an election, beside another one of its node. -/
example :
    let steps : List Step :=
      [.launch "a" (.hosted (.fresh (.ofNat 1))), .launch "b" (.hosted (.fresh (.ofNat 1))),
        .command "a" (.publish 0), .command "a" (.publish 7), .command "b" (.publish 5),
        .command "a" (.publish 7), .elect "q" "a" [.command (.publish 0), .command (.publish 9)],
        .ask "q" [], .ask "q" []]
    (Call.reaching 0 (empty.allCalls steps)).filterMap (fun call => call.command.lead?) =
        [0, 7, 7, 0, 9] ∧
      ((Call.reaching 0 (empty.allCalls steps)).flatMap Call.events).filterMap Event.shift? =
        [⟨.ofNat 1, 0, 7⟩, ⟨.ofNat 1, 7, 0⟩, ⟨.ofNat 1, 0, 9⟩] := by
  decide

end Session

end Leadership
