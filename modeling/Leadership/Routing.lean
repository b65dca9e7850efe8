import Leadership.Config
import Leadership.Event
import Leadership.Json.Value

/-!
# Decisions about the leader

What a node decides from one answer to the question who leads: whether it leads
itself, where a request goes, and what the cluster looks like.  All of these
depend on the configuration and that one answer alone.
-/

namespace Leadership

/-- Where a request is handled. -/
inductive Route where
  | here
  | forward (leader : NodeId) (endpoint : Endpoint)
deriving DecidableEq

/-- A view of the cluster at one moment. -/
structure Status where
  clusterName : String
  node : NodeId
  leader : Option NodeId
  isLeader : Bool
  memberCount : Nat
  /-- Why no leader is known. -/
  error : Option String
deriving DecidableEq

namespace Status

def toValue (status : Status) : Json.Value :=
  .record
    [("cluster_name", .text status.clusterName),
      ("node_id", .nat status.node.toNat),
      ("leader_id", (status.leader.map (fun leader => .nat leader.toNat)).getD .null),
      ("is_leader", .bool status.isLeader),
      ("member_count", .nat status.memberCount),
      ("error", (status.error.map .text).getD .null)]

def toText (status : Status) : String :=
  status.toValue.toText

end Status

namespace Config

/-- Whether this node leads. -/
def isLeader (config : Config) (answer : Answer) : Except Fault Bool :=
  answer.map (fun leader => leader == config.node)

/-- Fails unless this node leads.  Whoever asks is told the leader if one is known. -/
def ensureLeader (config : Config) : Answer → Except Fault Unit
  | .ok leader => if leader = config.node then .ok () else .error (.notLeader (some leader))
  | .error .noLeader => .error (.notLeader none)
  | .error fault => .error fault

/-- Where a request goes; a leader outside the configuration is reported. -/
def route (config : Config) : Answer → Except Fault Route × List Event
  | .error fault => (.error fault, [])
  | .ok leader =>
      if leader = config.node then
        (.ok .here, [])
      else
        match config.member? leader with
        | some member => (.ok (.forward leader member.endpoint), [])
        | none =>
            (.error (.unknownMember leader), [.strangerLeads leader config.clusterName])

/-- The view of the cluster, in which a fault is recorded and not raised. -/
def status (config : Config) (answer : Answer) : Status :=
  { clusterName := config.clusterName
    node := config.node
    leader := answer.toOption
    isLeader := answer.toOption = some config.node
    memberCount := config.members.length
    error := match answer with
      | .ok _ => none
      | .error fault => some fault.message }

end Config

end Leadership
