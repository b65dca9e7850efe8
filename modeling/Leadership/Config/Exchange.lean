import Leadership.Decode
import Leadership.Json.Value

/-!
# Configurations as JSON

Identifiers, members, patiences and configurations are exchanged as JSON.  They
are read from text, in which a mismatch and the end of what is JSON are reported
in the order in which they occur, or from a value that is known already.
-/

namespace Leadership

/-- The fault of a JSON text or value that does not say what was expected. -/
def Mismatch.fault (mismatch : Mismatch) : Fault :=
  .serialization mismatch.message

namespace Encode

variable {gap : Type}

def nodeId (node : NodeId) : Tree gap :=
  .nat node.toNat

def span (span : Span) : Tree gap :=
  .record [("secs", .nat span.seconds), ("nanos", .nat span.subsecond)]

def patience (patience : Patience) : Tree gap :=
  .record [("timeout", Encode.span patience.timeout), ("poll_interval", Encode.span patience.pause)]

def member (member : Member) : Tree gap :=
  .record [("id", nodeId member.node), ("name", .text member.name),
    ("peer_address", .text member.endpoint.text)]

def config (config : Config) : Tree gap :=
  .record [("node_id", nodeId config.node), ("cluster_name", .text config.clusterName),
    ("members", .list (config.members.map member)),
    ("leader_wait", patience config.patience)]

end Encode

namespace Json

/-- Reads something from a JSON text, which must hold nothing else. -/
def readText {α : Type} (read : Tree Malformed → Decoded α) (text : String) : Decoded α := do
  let outline := Outline.ofText text
  let result ← read outline.tree
  if outline.ended then return result else .error .malformed

/-- The types that can be exchanged by themselves. -/
inductive Exchanged where
  | nodeId
  | member
  | patience
  | config
deriving DecidableEq

/-- Reads a text as one of the types, and writes what was read. -/
def rewrite (exchanged : Exchanged) (text : String) : Decoded String :=
  match exchanged with
  | .nodeId => (readText Decode.nodeId text).map (fun node => Value.toText (Encode.nodeId node))
  | .member =>
      (readText (Decode.member .malformed) text).map
        (fun member => Value.toText (Encode.member member))
  | .patience =>
      (readText (Decode.patience .malformed) text).map
        (fun patience => Value.toText (Encode.patience patience))
  | .config =>
      (readText (Decode.config .malformed) text).map
        (fun config => Value.toText (Encode.config config))

end Json

namespace Config

/-- The configuration that a value describes; without one, or null, the standard configuration. -/
def ofDescription : Option Json.Value → Decoded Config
  | none | some .null => .ok .standard
  | some value => Decode.config .refused value

end Config

end Leadership
