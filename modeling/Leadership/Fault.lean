import Leadership.NodeId

/-!
# Faults

Why a question about the leader, or about a configuration, has no answer.  Each
fault is a cause with what it carries; its wording is `Fault.message`, and
`Fault.retryable` says whether asking again later may succeed by itself.
-/

namespace Leadership

/-- A reason why an operation failed. -/
inductive Fault where
  /-- The engine answers, and knows no leader. -/
  | noLeader
  /-- The engine cannot be asked. -/
  | engineUnavailable (detail : String)
  /-- This node had to lead and does not; the leader is named if it is known. -/
  | notLeader (leader : Option NodeId)
  /-- The leader is not a configured member. -/
  | unknownMember (leader : NodeId)
  | timeout (detail : String)
  | configuration (detail : String)
  | serialization (detail : String)
  /-- A foreign failure: what it says, and then what it says caused it. -/
  | backend (outermost : String) (inner : List String)
deriving DecidableEq

namespace Fault

/-- The wording shown to a user.  Of a foreign failure only the outermost text is shown. -/
def message : Fault → String
  | .noLeader => "No leader is currently known"
  | .engineUnavailable detail => "Consensus engine unavailable: " ++ detail
  | .notLeader (some leader) => "Not the leader (current leader: " ++ leader.text ++ ")"
  | .notLeader none => "Not the leader (current leader: unknown)"
  | .unknownMember leader => "Leader " ++ leader.text ++ " is not a configured cluster member"
  | .timeout detail => "Timeout error: " ++ detail
  | .configuration detail => "Configuration error: " ++ detail
  | .serialization detail => "Serialization error: " ++ detail
  | .backend outermost _ => "Backend error: " ++ outermost

/-- Whether asking again later may succeed without outside help. -/
def retryable : Fault → Bool
  | .noLeader | .timeout _ => true
  | _ => false

/-- The chain of causes behind a fault, outermost first.  Only a foreign failure has one. -/
def causes : Fault → List String
  | .backend outermost inner => outermost :: inner
  | _ => []

/-- A foreign failure wrapped in further contexts, the last of them outermost. -/
def backendWithin (root : String) (contexts : List String) : Fault :=
  match contexts.reverse with
  | [] => .backend root []
  | outermost :: inner => .backend outermost (inner ++ [root])

end Fault

/-- An answer to the question who leads. -/
abbrev Answer := Except Fault NodeId

end Leadership
