import Leadership.Proofs.Fleet.History
import Leadership.Proofs.Session.Steady
import Mathlib.Data.List.Nodup

/-!
# Runs of hosts and observers

Hosts launch engines, share and release handles on them, and command them;
observers are made and copied at any time, and anybody may ask.  In such a run
every answer of an observer is the one that the history of its own engine
determines, whatever is done to other engines and however many observers there
are.

The invariant is `Session.Orderly`: the fleet is what the deeds so far made it,
and an engine has exactly as many handles as names that bear it.  Observers have
names of their own, which are not counted.
-/

namespace Leadership

/-! ## Names -/

namespace Names

variable {bearer : Type}

theorem perm_remove {names : Names bearer} {name : String} {value : bearer}
    (distinct : (names.map Prod.fst).Nodup) (named : names.lookup name = some value) :
    names.Perm ((name, value) :: names.remove name) := by
  induction names with
  | nil => contradiction
  | cons entry others induction =>
      obtain ⟨other, held⟩ := entry
      rw [List.map_cons, List.nodup_cons] at distinct
      rw [List.lookup_cons] at named
      rcases eq_or_ne name other with same | different
      · subst same
        rw [beq_self_eq_true] at named
        cases named
        have kept : Names.remove name ((name, value) :: others) = others := by
          rw [remove, List.filter_cons_of_neg (by simp), List.filter_eq_self]
          intro entry member
          exact decide_eq_true fun equal =>
            distinct.1 (List.mem_map.mpr ⟨entry, member, equal⟩)
        rw [kept]
      · rw [beq_false_of_ne different] at named
        have rest := induction distinct.2 named
        have kept : Names.remove name ((other, held) :: others) =
            (other, held) :: Names.remove name others := by
          simp [remove, different.symm]
        rw [kept]
        exact (rest.cons _).trans (List.Perm.swap _ _ _)

theorem remove_of_lookup_eq_none {names : Names bearer} {name : String}
    (unnamed : names.lookup name = none) :
    names.remove name = names := by
  rw [remove, List.filter_eq_self]
  intro entry member
  have different := List.lookup_eq_none_iff.mp unnamed entry member
  exact decide_eq_true (bne_iff_ne.mp different).symm

theorem name_notMem_remove (name : String) (names : Names bearer) :
    name ∉ (names.remove name).map Prod.fst := by
  simp [remove]

theorem mem_of_mem_remove {names : Names bearer} {name : String} {value : bearer}
    (member : value ∈ (names.remove name).map Prod.snd) :
    value ∈ names.map Prod.snd :=
  (List.filter_sublist.map Prod.snd).mem member

theorem mem_of_lookup {names : Names bearer} {name : String} {value : bearer}
    (named : names.lookup name = some value) :
    value ∈ names.map Prod.snd := by
  obtain ⟨before, behind, rfl, -⟩ := List.lookup_eq_some_iff.mp named
  simp

end Names

/-! ## What steps do to engines -/

/--
A step of hosts and observers.  Engines are new when they are launched, and no
query has a memory of its own.
-/
def Step.isHosting : Step → Bool
  | .launch _ (.hosted state) => state = .fresh state.node
  | .launch _ (.bare _) | .script .. | .elect .. => false
  | _ => true

namespace Session

/-- The release of the handle that has a name already. -/
def displacement (name : String) (session : Session) : Chronicle :=
  match session.handles.lookup name with
  | some berth => [(berth, .released)]
  | none => []

/-- What a step of hosts and observers does to engines. -/
def deeds (session : Session) : Step → Chronicle
  | .launch name (.hosted state) =>
      (session.fleet.length, .launched state.node) :: session.displacement name
  | .share name source =>
      match session.handles.lookup source with
      | some berth => (berth, .shared) :: session.displacement name
      | none => []
  | .command name command =>
      match session.handles.lookup name with
      | some berth => [(berth, .commanded command)]
      | none => []
  | .release name => session.displacement name
  | _ => []

/-- The session after some steps. -/
def after : List Step → Session → Session
  | [], session => session
  | step :: steps, session => after steps (session.perform step).2.2

/-- All deeds of some steps, in their order. -/
def chronicle : List Step → Session → Chronicle
  | [], _ => []
  | step :: steps, session => session.deeds step ++ chronicle steps (session.perform step).2.2

/-- What some steps do to one engine, from a session without engines. -/
def history (berth : Berth) (steps : List Step) : History :=
  (chronicle steps .empty).history berth

/-! ## The invariant -/

/--
A session whose fleet is what a chronicle says.  Besides the named handles there
may be some that are about to be named.
-/
structure Orderly (unnamed : List Berth) (chronicle : Chronicle) (session : Session) : Prop where
  noCells : session.world.cells = []
  recorded : session.fleet.Recorded chronicle
  distinct : (session.handles.map Prod.fst).Nodup
  counted : ∀ berth : Berth,
    (session.handles.map Prod.snd ++ unnamed).count berth = (chronicle.history berth).handles
  moored : ∀ berth : Berth,
    berth ∈ session.observers.map Prod.snd ∨ .observer berth ∈ session.queries.map Prod.snd →
      berth < session.fleet.length

theorem Orderly.empty : empty.Orderly [] [] where
  noCells := rfl
  recorded := .empty
  distinct := List.nodup_nil
  counted _ := rfl
  moored berth observed := by simp [Session.empty] at observed

/-- A session without a name for a handle, and without the handle. -/
def dismiss (name : String) (session : Session) : Session :=
  match session.handles.lookup name with
  | some berth =>
      { session.withFleet (session.fleet.release berth) with
        handles := session.handles.remove name }
  | none => { session with handles := session.handles.remove name }

theorem handles_dismiss (name : String) (session : Session) :
    (session.dismiss name).handles = session.handles.remove name := by
  rw [dismiss]
  cases session.handles.lookup name <;> rfl

/-- A name is taken from its bearer before it is given to another. -/
theorem nameHandle_eq (name : String) (berth : Berth) (session : Session) :
    session.nameHandle name berth =
      { session.dismiss name with handles := (name, berth) :: (session.dismiss name).handles } := by
  rw [nameHandle, dismiss]
  cases session.handles.lookup name <;> rfl

namespace Orderly

variable {unnamed : List Berth} {chronicle : Chronicle} {session : Session}
variable {name : String} {berth : Berth}

/-- An engine is alive exactly as long as there is a handle on it. -/
theorem live?_isSome_iff (orderly : session.Orderly unnamed chronicle) :
    (session.fleet.live? berth).isSome ↔ berth ∈ session.handles.map Prod.snd ++ unnamed := by
  rw [← List.count_pos_iff, orderly.counted, Nat.pos_iff_ne_zero, ← not_iff_not, not_not,
    orderly.recorded.handles_eq_zero_iff, Option.not_isSome_iff_eq_none]

theorem alive (orderly : session.Orderly unnamed chronicle)
    (named : session.handles.lookup name = some berth) :
    (session.fleet.live? berth).isSome :=
  orderly.live?_isSome_iff.mpr (List.mem_append_left _ (Names.mem_of_lookup named))

/-- A deed leaves a session orderly if the handles are counted anew. -/
theorem enact {added : List Berth} (deed : Deed)
    (orderly : session.Orderly unnamed chronicle)
    (admitted : session.fleet.Admits berth deed)
    (counted :
      (session.handles.map Prod.snd ++ added).count berth =
        (chronicle.history berth ++ [deed] : History).handles)
    (others : ∀ other, other ≠ berth → added.count other = unnamed.count other) :
    (session.withFleet (session.fleet.enact berth deed)).Orderly added
      (chronicle ++ [(berth, deed)]) where
  noCells := orderly.noCells
  recorded := orderly.recorded.enact admitted
  distinct := orderly.distinct
  counted other := by
    rcases eq_or_ne other berth with same | different
    · subst same
      rw [Chronicle.history_record_self]
      exact counted
    · rw [Chronicle.history_record_of_ne different, ← orderly.counted other,
        List.count_append, List.count_append, others other different]
      rfl
  moored other observed :=
    Nat.lt_of_lt_of_le (orderly.moored other observed) (Fleet.length_enact admitted).1

theorem command (orderly : session.Orderly unnamed chronicle)
    (named : session.handles.lookup name = some berth) (command : Command) :
    (session.withFleet (session.fleet.command berth command).1).Orderly unnamed
      (chronicle ++ [(berth, .commanded command)]) := by
  refine orderly.enact (.commanded command) (orderly.alive named) ?_ ?_
  · rw [orderly.counted, History.handles_commanded]
  · intros
    rfl

theorem launch (orderly : session.Orderly [] chronicle) (node : NodeId) :
    (session.withFleet (session.fleet.launch (.hosted (.fresh node))).1).Orderly
      [session.fleet.length] (chronicle ++ [(session.fleet.length, .launched node)]) := by
  have unlaunched := orderly.recorded.unlaunched session.fleet.length (Nat.le_refl _)
  have uncounted := orderly.counted session.fleet.length
  refine orderly.enact (.launched node) rfl ?_ ?_
  · rw [unlaunched, List.append_nil] at uncounted
    rw [List.count_append, uncounted, unlaunched, List.count_singleton_self]
    rfl
  · intro other different
    rw [List.count_singleton, List.count_nil, if_neg]
    simpa using different.symm

theorem share (orderly : session.Orderly [] chronicle)
    (named : session.handles.lookup name = some berth) :
    (session.withFleet (session.fleet.share berth)).Orderly [berth]
      (chronicle ++ [(berth, .shared)]) := by
  have alive := orderly.alive named
  have held : 0 < (chronicle.history berth).handles := by
    rw [Nat.pos_iff_ne_zero, ne_eq, orderly.recorded.handles_eq_zero_iff]
    exact Option.isSome_iff_ne_none.mp alive
  refine orderly.enact .shared alive ?_ ?_
  · rw [History.handles_shared _ held, ← orderly.counted berth]
    simp
  · intro other different
    rw [List.count_singleton, List.count_nil, if_neg]
    simpa using different.symm

theorem dismiss (orderly : session.Orderly unnamed chronicle) (name : String) :
    (session.dismiss name).Orderly unnamed (chronicle ++ session.displacement name) := by
  cases named : session.handles.lookup name with
  | none =>
      simp only [Session.dismiss, displacement, named]
      rw [Names.remove_of_lookup_eq_none named, List.append_nil]
      exact orderly
  | some berth =>
      simp only [Session.dismiss, displacement, named]
      have separated := Names.perm_remove orderly.distinct named
      have admitted : session.fleet.Admits berth .released := orderly.alive named
      have kept : (session.handles.remove name).Sublist session.handles :=
        List.filter_sublist
      constructor
      · exact orderly.noCells
      · exact orderly.recorded.enact admitted
      · exact orderly.distinct.sublist (kept.map Prod.fst)
      · intro other
        have counted := orderly.counted other
        rw [List.count_append, (separated.map Prod.snd).count_eq, List.map_cons] at counted
        rcases eq_or_ne other berth with same | different
        · subst same
          rw [List.count_cons_self] at counted
          rw [Chronicle.history_record_self, History.handles_released, ← counted,
            List.count_append, Nat.add_right_comm, Nat.add_sub_cancel]
        · rw [List.count_cons_of_ne different.symm] at counted
          rw [Chronicle.history_record_of_ne different, ← counted, List.count_append]
      · intro other observed
        exact Nat.lt_of_lt_of_le (orderly.moored other observed)
          (Fleet.length_enact admitted).1

theorem christen (orderly : session.Orderly [berth] chronicle)
    (free : name ∉ session.handles.map Prod.fst) :
    Orderly [] chronicle { session with handles := (name, berth) :: session.handles } where
  noCells := orderly.noCells
  recorded := orderly.recorded
  distinct := List.nodup_cons.mpr ⟨free, orderly.distinct⟩
  counted other := by
    rw [← orderly.counted other, List.append_nil]
    exact (List.perm_append_singleton berth (session.handles.map Prod.snd)).symm.count_eq other
  moored := orderly.moored

theorem nameHandle (orderly : session.Orderly [berth] chronicle) (name : String) :
    (session.nameHandle name berth).Orderly [] (chronicle ++ session.displacement name) := by
  rw [nameHandle_eq]
  apply (orderly.dismiss name).christen
  rw [handles_dismiss]
  exact Names.name_notMem_remove name session.handles

theorem nameQuery (orderly : session.Orderly unnamed chronicle) {query : Query}
    (known : ∀ berth, query = .observer berth → berth < session.fleet.length) (name : String) :
    (session.nameQuery name query).Orderly unnamed chronicle where
  noCells := orderly.noCells
  recorded := orderly.recorded
  distinct := orderly.distinct
  counted := orderly.counted
  moored other observed := by
    rcases observed with named | asked
    · exact orderly.moored other (Or.inl named)
    · rcases List.mem_cons.mp asked with newest | older
      · exact known other newest.symm
      · exact orderly.moored other (Or.inr (Names.mem_of_mem_remove older))

theorem nameObserver (orderly : session.Orderly unnamed chronicle)
    (known : berth < session.fleet.length) (name : String) :
    (session.nameObserver name berth).Orderly unnamed chronicle where
  noCells := orderly.noCells
  recorded := orderly.recorded
  distinct := orderly.distinct
  counted := orderly.counted
  moored other observed := by
    rcases observed with named | asked
    · rcases List.mem_cons.mp named with newest | older
      · exact newest ▸ known
      · exact orderly.moored other (Or.inl (Names.mem_of_mem_remove older))
    · have asking : session.nameQuery name (.observer berth) |>.Orderly unnamed chronicle :=
        orderly.nameQuery (fun other same => by cases same; exact known) name
      exact asking.moored other (Or.inr asked)

theorem withRouters (orderly : session.Orderly unnamed chronicle) (routers : Names Router) :
    Orderly unnamed chronicle { session with routers := routers } :=
  ⟨orderly.noCells, orderly.recorded, orderly.distinct, orderly.counted, orderly.moored⟩

/-- Every step of hosts and observers leaves a session orderly. -/
theorem act {step : Step} (orderly : session.Orderly [] chronicle) (hosting : step.isHosting) :
    (session.act step).2.2.Orderly [] (chronicle ++ session.deeds step) := by
  have unchanged : session.Orderly [] (chronicle ++ []) := by
    rwa [List.append_nil]
  cases step with
  | launch name engine =>
      cases engine with
      | bare lead => contradiction
      | hosted state =>
          obtain fresh : state = .fresh state.node := of_decide_eq_true hosting
          have named := (orderly.launch state.node).nameHandle name
          rw [List.append_assoc] at named
          rw [Session.act, fresh]
          exact named
  | share name source =>
      rw [Session.act, deeds, withName]
      cases found : session.handles.lookup source with
      | none => exact unchanged
      | some berth =>
          have named := (orderly.share found).nameHandle name
          rw [List.append_assoc] at named
          exact named
  | command name command =>
      rw [Session.act, deeds, withName]
      cases found : session.handles.lookup name with
      | none => exact unchanged
      | some berth => exact orderly.command found command
  | inspect name =>
      rw [Session.act, withName]
      cases session.handles.lookup name <;> exact unchanged
  | release name =>
      have dismissed := orderly.dismiss name
      rw [Session.act, deeds]
      rw [Session.dismiss] at dismissed
      cases found : session.handles.lookup name with
      | none =>
          rw [found, Names.remove_of_lookup_eq_none found] at dismissed
          exact dismissed
      | some berth =>
          rw [found] at dismissed
          exact dismissed
  | observe name source =>
      rw [Session.act, withName]
      cases found : session.handles.lookup source with
      | none => exact unchanged
      | some berth =>
          obtain ⟨slot, -, -, -, known⟩ := Fleet.exists_slot_of_isSome (orderly.alive found)
          exact unchanged.nameObserver known name
  | copyObserver name source =>
      rw [Session.act, withName]
      cases found : session.observers.lookup source with
      | none => exact unchanged
      | some berth =>
          have known := orderly.moored berth (Or.inl (Names.mem_of_lookup found))
          exact unchanged.nameObserver known name
  | inspectObserver name =>
      rw [Session.act, withName]
      cases session.observers.lookup name <;> exact unchanged
  | fixed name leader => exact unchanged.nameQuery (by simp) name
  | script | elect => contradiction
  | ask name references =>
      rw [Session.act, withName]
      cases session.queries.lookup name with
      | none => exact unchanged
      | some query =>
          have steady := World.ask_steadyAt orderly.noCells query
          simp only [Asker.through_eq, show (World.ask query session.world).2.2 = _ from steady]
          exact unchanged
  | router name query description =>
      rw [Session.act]
      cases Config.ofDescription description with
      | error mismatch => exact unchanged
      | ok config =>
          simp only [withName]
          cases session.queries.lookup query with
          | none => exact unchanged
          | some query => exact unchanged.withRouters _
  | consult name matter =>
      rw [Session.act, withName]
      cases session.routers.lookup name with
      | none => exact unchanged
      | some router =>
          have steady := World.ask_steadyAt orderly.noCells router.query
          have kept := Config.consult_state steady router.config (askLimit + 1) matter
          simp only [kept]
          exact unchanged

theorem perform {step : Step} (orderly : session.Orderly [] chronicle)
    (hosting : step.isHosting) :
    (session.perform step).2.2.Orderly [] (chronicle ++ session.deeds step) := by
  have acted := orderly.act hosting
  change (session.act step).2.2.settle.Orderly [] _
  rwa [settle_of_noCells acted.noCells]

/-- Runs of hosts and observers are orderly. -/
theorem after {steps : List Step} (orderly : session.Orderly [] chronicle)
    (hosting : ∀ step ∈ steps, step.isHosting) :
    (session.after steps).Orderly [] (chronicle ++ session.chronicle steps) := by
  induction steps generalizing session chronicle with
  | nil => rwa [Session.chronicle, List.append_nil]
  | cons step steps induction =>
      rw [List.forall_mem_cons] at hosting
      rw [Session.chronicle, ← List.append_assoc]
      exact induction (orderly.perform hosting.1) hosting.2

end Orderly

end Session

end Leadership
