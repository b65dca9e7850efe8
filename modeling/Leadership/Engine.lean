import Leadership.Event

/-!
# Engines

A consensus engine as far as its host and its observers see it.  A hosted engine
keeps the lead that its host publishes, the phase of its life, and how often a
lead was published.  A bare engine shows a lead and nothing else, and nothing
that a host does changes it.

`Engine.answer` is what an engine that is still alive says about the leader.
-/

namespace Leadership

/-- The lead of an engine that knows no leader. -/
def nobody : UInt64 := 0

/-- The phases in the life of an engine. -/
inductive Phase where
  | starting
  | running
  | stopped
deriving DecidableEq

namespace Phase

def text : Phase → String
  | .starting => "starting"
  | .running => "running"
  | .stopped => "stopped"

/-- The name of the phase as a constructor. -/
def label : Phase → String
  | .starting => "Starting"
  | .running => "Running"
  | .stopped => "Stopped"

/-- The number under which a phase is stored. -/
def code : Phase → Nat
  | .starting => 0
  | .running => 1
  | .stopped => 2

/-- All phases, in the order in which an engine goes through them. -/
def all : List Phase :=
  [.starting, .running, .stopped]

end Phase

/-- An engine that its host drives. -/
structure Hosted where
  node : NodeId
  lead : UInt64
  phase : Phase
  /-- How often a lead was published, counted in a 64-bit word. -/
  publications : UInt64
deriving DecidableEq

inductive Engine where
  | hosted (state : Hosted)
  | bare (lead : UInt64)
deriving DecidableEq

/-- What a host does with its engine. -/
inductive Command where
  | start
  | stop
  | publish (lead : UInt64)
deriving DecidableEq

namespace Hosted

/-- A new engine has not started and knows no leader. -/
def fresh (node : NodeId) : Hosted :=
  { node := node, lead := nobody, phase := .starting, publications := 0 }

/-- The event of a published lead, of which there is none if the lead stays the same. -/
def leadEvents (node : NodeId) (previous current : UInt64) : List Event :=
  if previous = current then []
  else if current = nobody then [.leaderLost node previous]
  else [.leaderChanged node previous current]

def obey (command : Command) (state : Hosted) : Hosted × List Event :=
  match command with
  | .start => ({ state with phase := .running }, [.engineStarted state.node])
  | .stop => ({ state with phase := .stopped }, [.engineStopped state.node])
  | .publish lead =>
      ({ state with lead := lead, publications := state.publications + 1 },
        leadEvents state.node state.lead lead)

/-- All fields of an engine on one line. -/
def labelled (state : Hosted) : String :=
  "LocalRaftServer \x7b id: " ++ state.node.labelled ++
    ", lead: " ++ state.lead.toNat.repr ++
    ", status: " ++ state.phase.code.repr ++
    ", lead_changes: " ++ state.publications.toNat.repr ++ " \x7d"

end Hosted

namespace Engine

def lead : Engine → UInt64
  | .hosted state => state.lead
  | .bare lead => lead

/-- A bare engine counts as running. -/
def phase : Engine → Phase
  | .hosted state => state.phase
  | .bare _ => .running

def obey (command : Command) : Engine → Engine × List Event
  | .hosted state =>
      let (state, events) := state.obey command
      (.hosted state, events)
  | .bare lead => (.bare lead, [])

/-- An engine that stopped is not to be trusted, whatever lead it holds. -/
def answer (engine : Engine) : Answer × List Event :=
  if engine.phase = .stopped then
    (.error (.engineUnavailable "raft server stopped"), [.askedStopped])
  else if engine.lead = nobody then
    (.error .noLeader, [.askedLeaderless])
  else
    (.ok ⟨engine.lead⟩, [])

end Engine

end Leadership
