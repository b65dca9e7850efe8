import Leadership.Config
import Leadership.Endpoint.Text
import Leadership.Mismatch

/-!
# Reading data trees

A record is read from a map or, by position, from a sequence.  The entries of a
map are read in their order and the first that cannot be read is the mismatch;
only a map whose entries all can be read may lack a field, and then the first
lacking field in declared order is the mismatch.  Fields without a place are
passed over, except in a span.

Where a tree has gaps, whatever mismatch comes first in the text wins, and a gap
is one as soon as something has to be read from it.
-/

namespace Leadership

/-- What is made of a sequence with more items than a record has fields. -/
inductive Surplus where
  | ignored
  | refused
  | malformed
deriving DecidableEq

/-- The outcome of reading a tree. -/
abbrev Decoded := Except Mismatch

namespace Decode

variable {gap : Type} {α : Type}

/-! ### Scalars -/

/-- A natural number of a word with so many values. -/
def word (size : Nat) (expected : Expected) : Tree gap → Decoded Nat
  | .int value =>
      if 0 ≤ value ∧ value < size then .ok value.toNat
      else .error (.outOfRange value expected)
  | tree => .error (tree.mismatch expected)

def nodeId (tree : Tree gap) : Decoded NodeId :=
  (word UInt64.size .word64 tree).map NodeId.ofNat

def text : Tree gap → Decoded String
  | .text value => .ok value
  | tree => .error (tree.mismatch .text)

def endpoint : Tree gap → Decoded Endpoint
  | .text value =>
      match Endpoint.ofText? value with
      | some endpoint => .ok endpoint
      | none => .error .badEndpoint
  | tree => .error (tree.mismatch .endpoint)

/-! ### Records -/

/-- Nothing more may follow a break. -/
def unbroken : Option gap → Decoded Unit
  | none => .ok ()
  | some _ => .error .malformed

/-- The field at a place of a sequence. -/
def item (expected : Expected) (place : Nat) (read : Tree gap → Decoded α)
    (items : List (Tree gap)) (broken : Option gap) : Decoded α :=
  match items[place]? with
  | some tree => read tree
  | none => do
      unbroken broken
      .error (.tooFew place expected)

/-- The end of a sequence of which the first `count` items have been read. -/
def closing (surplus : Surplus) (count : Nat) (items : List (Tree gap)) (broken : Option gap) :
    Decoded Unit :=
  if count < items.length then
    match surplus with
    | .ignored => .ok ()
    | .refused => .error (.tooMany items.length)
    | .malformed => .error .malformed
  else
    unbroken broken

/-- A field of a record: its name, and whether a tree can be read as its value. -/
structure Field (gap : Type) where
  name : String
  check : Tree gap → Decoded Unit

/-- A field whose values are read in some way. -/
def Field.of (name : String) (read : Tree gap → Decoded α) : Field gap :=
  ⟨name, fun tree => (read tree).map (fun _ => ())⟩

/--
Checks the entries of a map in their order.  `seen` holds the fields before
them; `strict` tells whether every entry must be a field.
-/
def entries (fields : List (Field gap)) (strict : Bool) (seen : List String) :
    List (String × Tree gap) → Decoded Unit
  | [] => .ok ()
  | (key, tree) :: rest =>
      match fields.find? (fun field => field.name == key) with
      | some field => do
          if key ∈ seen then .error (.repeatedField key)
          field.check tree
          entries fields strict (key :: seen) rest
      | none => do
          if strict then .error (.unknownField key (fields.map Field.name))
          entries fields strict seen rest

/-- A field that a map has to have. -/
def required (name : String) (read : Tree gap → Decoded α)
    (entries : List (String × Tree gap)) : Decoded α :=
  match entries.lookup name with
  | some tree => read tree
  | none => .error (.missingField name)

/-! ### Spans -/

def nanoseconds (tree : Tree gap) : Decoded Nat :=
  word UInt32.size .word32 tree

/-- A span of whole seconds and nanoseconds, of which whole seconds are carried. -/
def assembleSpan (seconds nanoseconds : Nat) : Decoded Span :=
  match Span.ofParts? seconds nanoseconds with
  | some span => .ok span
  | none => .error .spanOverflow

def spanFields : List (Field gap) :=
  [.of "secs" (word UInt64.size .word64), .of "nanos" nanoseconds]

def span (surplus : Surplus) : Tree gap → Decoded Span
  | .seq items broken => do
      let seconds ← item .span 0 (word UInt64.size .word64) items broken
      let nanos ← item .span 1 nanoseconds items broken
      let span ← assembleSpan seconds nanos
      closing surplus 2 items broken
      return span
  | .map map broken => do
      entries spanFields true [] map
      unbroken broken
      let seconds ← required "secs" (word UInt64.size .word64) map
      let nanos ← required "nanos" nanoseconds map
      assembleSpan seconds nanos
  | tree => .error (tree.mismatch .span)

/-! ### Configurations -/

def patienceFields (surplus : Surplus) : List (Field gap) :=
  [.of "timeout" (span surplus), .of "poll_interval" (span surplus)]

def patience (surplus : Surplus) : Tree gap → Decoded Patience
  | .seq items broken => do
      let timeout ← item .patience 0 (span surplus) items broken
      let pause ← item .patience 1 (span surplus) items broken
      closing surplus 2 items broken
      return ⟨timeout, pause⟩
  | .map map broken => do
      entries (patienceFields surplus) false [] map
      unbroken broken
      let timeout ← required "timeout" (span surplus) map
      let pause ← required "poll_interval" (span surplus) map
      return ⟨timeout, pause⟩
  | tree => .error (tree.mismatch .patience)

def memberFields : List (Field gap) :=
  [.of "id" nodeId, .of "name" text, .of "peer_address" endpoint]

def member (surplus : Surplus) : Tree gap → Decoded Member
  | .seq items broken => do
      let node ← item .member 0 nodeId items broken
      let name ← item .member 1 text items broken
      let endpoint ← item .member 2 endpoint items broken
      closing surplus 3 items broken
      return ⟨node, name, endpoint⟩
  | .map map broken => do
      entries memberFields false [] map
      unbroken broken
      let node ← required "id" nodeId map
      let name ← required "name" text map
      let endpoint ← required "peer_address" endpoint map
      return ⟨node, name, endpoint⟩
  | tree => .error (tree.mismatch .member)

def members (surplus : Surplus) : Tree gap → Decoded (List Member)
  | .seq items broken => do
      let members ← items.mapM (member surplus)
      unbroken broken
      return members
  | tree => .error (tree.mismatch .sequence)

def configFields (surplus : Surplus) : List (Field gap) :=
  [.of "node_id" nodeId, .of "cluster_name" text, .of "members" (members surplus),
    .of "leader_wait" (patience surplus)]

/-- The patience is the one field of a configuration that may be left out. -/
def config (surplus : Surplus) : Tree gap → Decoded Config
  | .seq items broken => do
      let node ← item .config 0 nodeId items broken
      let name ← item .config 1 text items broken
      let members ← item .config 2 (members surplus) items broken
      let patience ← match items[3]? with
        | some tree => patience surplus tree
        | none => (unbroken broken).map (fun _ => .standard)
      closing surplus 4 items broken
      return ⟨node, name, members, patience⟩
  | .map map broken => do
      entries (configFields surplus) false [] map
      unbroken broken
      let node ← required "node_id" nodeId map
      let name ← required "cluster_name" text map
      let members ← required "members" (members surplus) map
      let patience ← match map.lookup "leader_wait" with
        | some tree => patience surplus tree
        | none => .ok .standard
      return ⟨node, name, members, patience⟩
  | tree => .error (tree.mismatch .config)

end Decode

end Leadership
