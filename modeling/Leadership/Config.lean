import Leadership.Endpoint
import Leadership.Fault
import Leadership.Span

/-!
# Configurations

What a node knows about its cluster: its own identifier, the cluster's name,
every voting member with its endpoint, and how patiently callers wait for a
leader.  `Config.violation?` finds the first rule that a configuration breaks.
-/

namespace Leadership

/-- A voting member of the cluster. -/
structure Member where
  node : NodeId
  name : String
  /-- Where the other members reach this one. -/
  endpoint : Endpoint
deriving DecidableEq

/-- How long and how often callers ask for a leader. -/
structure Patience where
  timeout : Span
  /-- The pause between two questions. -/
  pause : Span
deriving DecidableEq

namespace Patience

/-- Ten seconds, with ten questions a second. -/
def standard : Patience :=
  ⟨.ofMilliseconds 10000, .ofMilliseconds 100⟩

end Patience

/-- A cluster as one of its nodes knows it. -/
structure Config where
  node : NodeId
  clusterName : String
  members : List Member
  patience : Patience
deriving DecidableEq

namespace Config

/-- A cluster of one node on the local machine. -/
def standard : Config :=
  { node := .ofNat 1
    clusterName := "meta-cluster"
    members := [⟨.ofNat 1, "meta-1", .v4 ⟨127, 0, 0, 1⟩ 2380⟩]
    patience := .standard }

/-- The first member with an identifier. -/
def member? (config : Config) (node : NodeId) : Option Member :=
  config.members.find? (fun member => member.node == node)

/-- The member that this node itself is. -/
def localMember? (config : Config) : Option Member :=
  config.member? config.node

end Config

/-- A rule that a configuration breaks. -/
inductive Violation where
  | unnamedCluster
  | noMembers
  /-- A member with the identifier that stands for "no leader". -/
  | reservedMember (name : String)
  | repeatedMember (node : NodeId)
  | strangerToItself (node : NodeId)
  | hastyPause
  | impatient
deriving DecidableEq

namespace Violation

def message : Violation → String
  | .unnamedCluster => "Cluster name cannot be empty"
  | .noMembers => "At least one cluster member must be configured"
  | .reservedMember name => "Member '" ++ name ++ "' uses reserved node id 0"
  | .repeatedMember node => "Duplicate member id " ++ node.text
  | .strangerToItself node =>
      "Local node " ++ node.text ++ " is not among the configured members"
  | .hastyPause => "Leader poll interval must be at least 10ms"
  | .impatient => "Leader wait timeout must not be shorter than the poll interval"

def fault (violation : Violation) : Fault :=
  .configuration violation.message

end Violation

namespace Config

/-- The shortest pause between two questions that a valid configuration may have. -/
def shortestPause : Span :=
  .ofMilliseconds 10

/-- The first rule broken by the members, given the identifiers of those before them. -/
def memberViolation? (seen : List NodeId) : List Member → Option Violation
  | [] => none
  | member :: members =>
      if member.node = .ofNat 0 then some (.reservedMember member.name)
      else if member.node ∈ seen then some (.repeatedMember member.node)
      else memberViolation? (member.node :: seen) members

/-- The first rule that a configuration breaks. -/
def violation? (config : Config) : Option Violation :=
  if config.clusterName.isEmpty then some .unnamedCluster
  else if config.members.isEmpty then some .noMembers
  else
    match memberViolation? [] config.members with
    | some violation => some violation
    | none =>
        if config.localMember?.isNone then some (.strangerToItself config.node)
        else if config.patience.pause < shortestPause then some .hastyPause
        else if config.patience.timeout < config.patience.pause then some .impatient
        else none

/-- Accepts a configuration that breaks no rule. -/
def validate (config : Config) : Except Fault Unit :=
  match config.violation? with
  | some violation => .error violation.fault
  | none => .ok ()

end Config

end Leadership
