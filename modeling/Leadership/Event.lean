import Leadership.Fault

/-!
# Events

What the program reports about itself while it runs: engines that start, stop
or change their lead, queries that find no leader, and waits that go on.
-/

namespace Leadership

/-- How much attention an event asks for. -/
inductive Level where
  | trace
  | debug
  | info
  | warn
deriving DecidableEq

/-- Something worth a line in the log. -/
inductive Event where
  | engineStarted (node : NodeId)
  | engineStopped (node : NodeId)
  /-- The lead went from a leader to nobody. -/
  | leaderLost (node : NodeId) (previous : UInt64)
  /-- The lead went to a leader, from another one or from nobody. -/
  | leaderChanged (node : NodeId) (previous current : UInt64)
  | askedDropped
  | askedStopped
  | askedLeaderless
  /-- A leader that the configuration of a cluster does not list. -/
  | strangerLeads (leader : NodeId) (cluster : String)
  /-- A wait goes on after a query failed as described. -/
  | stillWaiting (reason : String)
deriving DecidableEq

namespace Event

def level : Event → Level
  | .engineStarted _ | .engineStopped _ | .leaderLost .. | .leaderChanged .. => .info
  | .askedDropped | .askedStopped | .askedLeaderless => .debug
  | .strangerLeads .. => .warn
  | .stillWaiting _ => .trace

def message : Event → String
  | .engineStarted node => "Started raft server for node " ++ node.text
  | .engineStopped node => "Stopped raft server for node " ++ node.text
  | .leaderLost node previous =>
      "Node " ++ node.text ++ " lost track of leader " ++ previous.toNat.repr
  | .leaderChanged node previous current =>
      "Node " ++ node.text ++ " observed leader change " ++ previous.toNat.repr ++
        " -> " ++ current.toNat.repr
  | .askedDropped => "Leader query against a dropped raft server"
  | .askedStopped => "Leader query against a stopped raft server"
  | .askedLeaderless => "Raft server reports no leader"
  | .strangerLeads leader cluster =>
      "Leader " ++ leader.text ++ " is not a member of cluster " ++ cluster
  | .stillWaiting reason => "Still waiting for a leader: " ++ reason

end Event

end Leadership
