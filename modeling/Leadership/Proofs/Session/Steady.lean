import Leadership.Session

/-!
# Questions that change nothing

Observers and leaders that never change only look at the world.  Where a world
holds neither scripts nor elections, no question changes it, and so nothing that
a router is consulted for does, however often a wait asks.
-/

namespace Leadership

/-- A question in some state leaves that state as it is. -/
def Asker.SteadyAt {state : Type} (ask : Asker state) (current : state) : Prop :=
  (ask current).2.2 = current

namespace Wait

variable {state : Type} {ask : Asker state} {current : state}

theorem asking_state
    (steady : ask.SteadyAt current) (patience : Patience)
    (questions elapsed asked : Nat) (reversed : List Event) :
    (asking ask patience questions elapsed asked reversed current).state = current := by
  induction questions generalizing elapsed asked reversed with
  | zero => rfl
  | succ questions induction =>
      rw [asking_succ, show (ask current).2.2 = current from steady]
      cases judge patience elapsed (ask current).1 with
      | ends ending => rfl
      | goesOn fault => exact induction _ _ _

theorem run_state
    (steady : ask.SteadyAt current) (patience : Patience) (unpaused : Nat) :
    (run ask patience unpaused current).state = current := by
  unfold run
  split
  · rfl
  · exact asking_state steady patience _ _ _ _

end Wait

theorem Config.consult_state {state : Type} {ask : Asker state} {current : state}
    (steady : ask.SteadyAt current) (config : Config) (unpaused : Nat) (matter : Matter) :
    (config.consult ask unpaused matter current).2.2 = current := by
  cases matter with
  | isLeader | ensureLeader | route | status | statusText => exact steady
  | config | validity => rfl
  | wait => exact Wait.run_state steady config.patience unpaused

namespace World

theorem ask_steadyAt {world : World} (noCells : world.cells = []) (query : Query) :
    (ask query).SteadyAt world := by
  cases query with
  | observer berth => rfl
  | fixed leader => cases leader <;> rfl
  | cell place => simp [Asker.SteadyAt, ask, askCell, noCells]

theorem retireAllBut_of_noCells {world : World} (noCells : world.cells = [])
    (queries : List Query) :
    world.retireAllBut queries = world := by
  simp [retireAllBut, noCells]

end World

theorem Session.settle_of_noCells {session : Session} (noCells : session.world.cells = []) :
    session.settle = session := by
  simp only [settle, World.retireAllBut_of_noCells noCells]

end Leadership
