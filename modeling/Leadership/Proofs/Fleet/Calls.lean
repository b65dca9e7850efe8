import Leadership.Fleet
import Leadership.Proofs.Fleet.History
import Leadership.Proofs.Fleet.Shifts

/-!
# Calls to engines

Whatever happens to a fleet, its engines change only when a command reaches one of
them, and only that one.  So an engine is what the commands made of it that reached
it, and its part of the log is what it reported of these.

`Fleet.Led` says all that a part of a run can do: which calls it made, what it
logged and which fleet it led to.  Parts of a run that follow each other are one
part, so that every run has its calls.
-/

namespace Leadership

/-- A command that reached an engine, and what the engine reported of it. -/
structure Call where
  berth : Berth
  command : Command
  events : List Event

/-- The calls that reached one engine. -/
def Call.reaching (berth : Berth) (calls : List Call) : List Call :=
  calls.filter fun call => call.berth = berth

theorem Call.reaching_append (berth : Berth) (earlier later : List Call) :
    Call.reaching berth (earlier ++ later) =
      Call.reaching berth earlier ++ Call.reaching berth later :=
  List.filter_append ..

theorem Call.reaching_of_ne {berth : Berth} {calls : List Call}
    (elsewhere : ∀ call ∈ calls, call.berth ≠ berth) : Call.reaching berth calls = [] := by
  rw [reaching, List.filter_eq_nil_iff]
  intro call isOne
  simpa using elsewhere call isOne

namespace Engine

theorem node?_obey (command : Command) (engine : Engine) :
    (engine.obey command).1.node? = engine.node? := by
  cases engine with
  | bare lead => rfl
  | hosted state => cases command <;> rfl

theorem node?_obeyAll (commands : List Command) (engine : Engine) :
    (engine.obeyAll commands).1.node? = engine.node? := by
  induction commands generalizing engine with
  | nil => rfl
  | cons command commands induction =>
      simp only [obeyAll, induction, node?_obey]

/-- An engine reports changes of its own node. -/
theorem node?_of_shift {engine : Engine} {command : Command} {shift : Shift}
    (reported : shift ∈ (engine.obey command).2.filterMap Event.shift?) :
    engine.node? = some shift.node := by
  cases engine with
  | bare lead => contradiction
  | hosted state =>
      have onTrail : shift ∈ Shift.trail state.node state.lead command.lead?.toList :=
        (Hosted.obey_spec command state).2.2.2 ▸ reported
      exact congrArg some (Shift.node_of_mem_trail onTrail).symm

end Engine

namespace Fleet

/-- A command as it reaches an engine, if the engine is alive. -/
def call (fleet : Fleet) (berth : Berth) (command : Command) : List Call :=
  match fleet.live? berth with
  | some slot => [⟨berth, command, (slot.engine.obey command).2⟩]
  | none => []

/-- The engines of a fleet stay what they are. -/
def Keeps (before after : Fleet) : Prop :=
  ∀ (berth : Berth) (slot : Slot), before[berth]? = some slot →
    ∃ handles, after[berth]? = some ⟨slot.engine, handles⟩

/-- A part of a run: the fleet before, the calls, what is logged, and the fleet after. -/
structure Led (before : Fleet) (calls : List Call) (events : List Event) (after : Fleet) :
    Prop where
  /-- An engine is what the calls to it made of it. -/
  engines : ∀ (berth : Berth) (slot : Slot), before[berth]? = some slot →
    ∃ handles, after[berth]? =
      some ⟨(slot.engine.obeyAll ((Call.reaching berth calls).map Call.command)).1, handles⟩
  reports : ∀ (berth : Berth) (slot : Slot), before[berth]? = some slot →
    (Call.reaching berth calls).flatMap Call.events =
      (slot.engine.obeyAll ((Call.reaching berth calls).map Call.command)).2
  /-- A change that is reported in a call is one of the node that was called. -/
  signed : ∀ call ∈ calls, ∃ slot, after[call.berth]? = some slot ∧
    ∀ shift ∈ call.events.filterMap Event.shift?, slot.engine.node? = some shift.node
  /-- The log has the changes that were reported in calls, and no others. -/
  logged : events.filterMap Event.shift? =
    (calls.flatMap Call.events).filterMap Event.shift?

theorem Keeps.led {before after : Fleet} (keeps : before.Keeps after) {events : List Event}
    (silent : events.filterMap Event.shift? = []) : before.Led [] events after where
  engines := keeps
  reports _ _ _ := rfl
  signed call impossible := by contradiction
  logged := silent

namespace Led

variable {before middle after : Fleet} {earlier later : List Call} {events further : List Event}

/-- Two parts of a run, one after the other. -/
theorem trans (first : before.Led earlier events middle) (second : middle.Led later further after) :
    before.Led (earlier ++ later) (events ++ further) after := by
  constructor
  · intro berth slot present
    obtain ⟨held, reached⟩ := first.engines berth slot present
    rw [Call.reaching_append, List.map_append, Engine.obeyAll_append]
    exact second.engines berth _ reached
  · intro berth slot present
    obtain ⟨held, reached⟩ := first.engines berth slot present
    rw [Call.reaching_append, List.map_append, Engine.obeyAll_append, List.flatMap_append,
      first.reports berth slot present, second.reports berth _ reached]
  · intro call isCall
    rcases List.mem_append.mp isCall with before | after
    · obtain ⟨slot, present, named⟩ := first.signed call before
      obtain ⟨held, reached⟩ := second.engines call.berth slot present
      refine ⟨_, reached, ?_⟩
      rwa [Engine.node?_obeyAll]
    · exact second.signed call after
  · rw [List.filterMap_append, first.logged, second.logged, List.flatMap_append,
      List.filterMap_append]

/-- Of the log only the changes of leads matter. -/
theorem relog (led : before.Led earlier events after)
    (same : further.filterMap Event.shift? = events.filterMap Event.shift?) :
    before.Led earlier further after :=
  ⟨led.engines, led.reports, led.signed, same.trans led.logged⟩

end Led

namespace Led

variable {before after : Fleet} {calls : List Call} {events : List Event} {berth : Berth}
variable {node : NodeId}

/-- Calls reach engines that the fleet has in the end. -/
theorem lt_length (led : before.Led calls events after) {call : Call} (isCall : call ∈ calls) :
    call.berth < after.length := by
  obtain ⟨slot, present, -⟩ := led.signed call isCall
  exact (List.getElem?_eq_some_iff.mp present).1

/-- If no other engine has its node, an engine's changes are those of the node. -/
theorem shifts_of_node (led : before.Led calls events after) {slot : Slot}
    (present : after[berth]? = some slot) (named : slot.engine.node? = some node)
    (alone : ∀ (other : Berth) (found : Slot), other ≠ berth → after[other]? = some found →
      found.engine.node? ≠ some node) :
    (events.filterMap Event.shift?).filter (fun shift => shift.node = node) =
      ((Call.reaching berth calls).flatMap Call.events).filterMap Event.shift? := by
  have signed := led.signed
  rw [led.logged]
  clear led
  induction calls with
  | nil => rfl
  | cons call calls induction =>
      rw [List.forall_mem_cons] at signed
      obtain ⟨⟨found, reached, own⟩, others⟩ := signed
      rw [List.flatMap_cons, List.filterMap_append, List.filter_append, induction others]
      by_cases here : call.berth = berth
      · have kept : Call.reaching berth (call :: calls) = call :: Call.reaching berth calls :=
          List.filter_cons_of_pos (by simpa using here)
        obtain rfl : found = slot := Option.some.inj (reached.symm.trans (here ▸ present))
        have all : (call.events.filterMap Event.shift?).filter (fun shift => shift.node = node) =
            call.events.filterMap Event.shift? := by
          rw [List.filter_eq_self]
          intro shift reported
          exact decide_eq_true (Option.some.inj ((own shift reported).symm.trans named))
        rw [all, kept, List.flatMap_cons, List.filterMap_append]
      · have dropped : Call.reaching berth (call :: calls) = Call.reaching berth calls :=
          List.filter_cons_of_neg (by simpa using here)
        have none : (call.events.filterMap Event.shift?).filter (fun shift => shift.node = node) =
            [] := by
          rw [List.filter_eq_nil_iff]
          intro shift reported same
          have its : found.engine.node? = some node := of_decide_eq_true same ▸ own shift reported
          exact alone call.berth found here reached its
        rw [none, dropped, List.nil_append]

end Led

/-! ## What is done to a fleet -/

variable {fleet : Fleet}

theorem Keeps.refl : fleet.Keeps fleet :=
  fun _ slot present => ⟨slot.handles, present⟩

theorem Keeps.trans {before middle after : Fleet} (first : before.Keeps middle)
    (second : middle.Keeps after) : before.Keeps after := by
  intro berth slot present
  obtain ⟨held, reached⟩ := first berth slot present
  exact second berth ⟨slot.engine, held⟩ reached

/-- Nothing happens to a fleet, and no change is logged. -/
theorem led_silent (fleet : Fleet) {events : List Event}
    (silent : events.filterMap Event.shift? = []) : fleet.Led [] events fleet :=
  Keeps.refl.led silent

/-- What replaces a slot and keeps its engine. -/
theorem keeps_set {berth : Berth} {slot : Slot} (alive : fleet.live? berth = some slot)
    (handles : Nat) : fleet.Keeps (fleet.set berth { slot with handles := handles }) := by
  intro other found present
  obtain ⟨here, -⟩ := live?_eq_some_iff.mp alive
  rcases eq_or_ne other berth with rfl | different
  · obtain rfl : slot = found := Option.some.inj (here.symm.trans present)
    exact ⟨handles, List.getElem?_set_self (List.getElem?_eq_some_iff.mp here).1⟩
  · exact ⟨found.handles, by rw [List.getElem?_set_ne different.symm, present]⟩

theorem keeps_launch (engine : Engine) : fleet.Keeps (fleet.launch engine).1 := by
  intro berth slot present
  have known := (List.getElem?_eq_some_iff.mp present).1
  exact ⟨slot.handles, by rw [launch, List.getElem?_append_left known, present]⟩

theorem keeps_share (berth : Berth) : fleet.Keeps (fleet.share berth) := by
  rw [share]
  cases alive : fleet.live? berth with
  | none => exact .refl
  | some slot => exact keeps_set alive _

theorem keeps_release (berth : Berth) : fleet.Keeps (fleet.release berth) := by
  rw [release]
  cases alive : fleet.live? berth with
  | none => exact .refl
  | some slot => exact keeps_set alive _

/-- Observers are told nothing of changes. -/
theorem led_answer (fleet : Fleet) (berth : Berth) :
    fleet.Led [] (fleet.answer berth).2 fleet := by
  apply fleet.led_silent
  rw [Fleet.answer]
  cases fleet.live? berth with
  | none => rfl
  | some slot =>
      simp only [Engine.answer]
      split_ifs <;> rfl

/-- A command to an engine that is alive is a call. -/
theorem led_obey {berth : Berth} {slot : Slot} (alive : fleet.live? berth = some slot)
    (command : Command) :
    fleet.Led [⟨berth, command, (slot.engine.obey command).2⟩] (slot.engine.obey command).2
      (fleet.set berth { slot with engine := (slot.engine.obey command).1 }) := by
  obtain ⟨here, -⟩ := live?_eq_some_iff.mp alive
  have known := (List.getElem?_eq_some_iff.mp here).1
  let call : Call := ⟨berth, command, (slot.engine.obey command).2⟩
  have called : Call.reaching berth [call] = [call] := by simp [Call.reaching, call]
  have uncalled : ∀ other, other ≠ berth → Call.reaching other [call] = [] := by
    intro other different
    simp [Call.reaching, call, different.symm]
  constructor
  · intro other found present
    rcases eq_or_ne other berth with rfl | different
    · obtain rfl : slot = found := Option.some.inj (here.symm.trans present)
      rw [called, List.getElem?_set_self known]
      exact ⟨slot.handles, rfl⟩
    · rw [uncalled other different, List.getElem?_set_ne different.symm, present]
      exact ⟨found.handles, rfl⟩
  · intro other found present
    rcases eq_or_ne other berth with rfl | different
    · obtain rfl : slot = found := Option.some.inj (here.symm.trans present)
      rw [called]
      rfl
    · rw [uncalled other different]
      rfl
  · intro one isCall
    obtain rfl := List.mem_singleton.mp isCall
    refine ⟨_, List.getElem?_set_self known, ?_⟩
    intro shift reported
    rw [Engine.node?_obey]
    exact Engine.node?_of_shift reported
  · rw [List.flatMap_singleton]

/-- A command is a call to the engine that it reaches. -/
theorem led_command (berth : Berth) (command : Command) :
    fleet.Led (fleet.call berth command) (fleet.command berth command).2
      (fleet.command berth command).1 := by
  rw [Fleet.command, call]
  cases alive : fleet.live? berth with
  | none => exact fleet.led_silent rfl
  | some slot => exact led_obey alive command

end Fleet

end Leadership
