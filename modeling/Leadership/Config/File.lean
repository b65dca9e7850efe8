import Leadership.Decode
import Leadership.Toml.Layout

/-!
# Configurations in files

A configuration is kept as a TOML document.  Reading a place and writing to it
fail with a cause of their own, and a failed write leaves the place as it was.

Integers of such a document have a sign, so a configuration with a number of
`2 ^ 63` or more cannot be written.  This is found out before anything is.
-/

namespace Leadership

/-! ### Documents -/

/-- Why a text is not the document of a configuration. -/
inductive DocumentFault where
  /-- The text is not TOML. -/
  | malformed
  | mismatch (cause : Mismatch)
deriving DecidableEq

namespace DocumentFault

def message : DocumentFault → String
  | .malformed => Mismatch.malformed.message
  | .mismatch cause => cause.message

def fault (fault : DocumentFault) : Fault :=
  .configuration ("Failed to parse config: " ++ fault.message)

end DocumentFault

namespace Config

/-- The configuration that a document holds.  Items beyond the fields of a record are ignored. -/
def ofDocument (text : String) : Except DocumentFault Config :=
  match Toml.tree? text with
  | none => .error .malformed
  | some tree => (Decode.config .ignored tree).mapError .mismatch

/-- Whether a number fits an integer of a document. -/
def isWritable (number : Nat) : Bool :=
  number ≤ Toml.greatestInt

/-- All numbers of a configuration that may be too large for a document. -/
def numbers (config : Config) : List Nat :=
  config.node.toNat :: config.members.map (fun member => member.node.toNat) ++
    [config.patience.timeout.seconds, config.patience.pause.seconds]

def memberLines (member : Member) : List Toml.Line :=
  [.tables "members",
    .pair "id" (.number member.node.toNat),
    .pair "name" (.text member.name),
    .pair "peer_address" (.text member.endpoint.text)]

def spanLines (name : String) (span : Span) : List Toml.Line :=
  [.table ["leader_wait"] name,
    .pair "secs" (.number span.seconds),
    .pair "nanos" (.number span.subsecond)]

def lines (config : Config) : List Toml.Line :=
  [.pair "node_id" (.number config.node.toNat),
    .pair "cluster_name" (.text config.clusterName)] ++
    (if config.members.isEmpty then [.pair "members" .noItems] else []) ++
    config.members.flatMap memberLines ++
    spanLines "timeout" config.patience.timeout ++
    spanLines "poll_interval" config.patience.pause

/-- The document of a configuration, if all its numbers fit. -/
def toDocument? (config : Config) : Option String :=
  if config.numbers.all isWritable then some (Toml.writeLines config.lines) else none

end Config

/-! ### Places -/

/-- What is found at the path of a file. -/
inductive Place where
  | vacant
  | file (content : ByteArray)
  | directory
  /-- The path leads into a directory that does not exist. -/
  | inMissingDirectory
  /-- The path leads through a plain file. -/
  | belowFile

/-- Why a file cannot be read or written. -/
inductive FileFault where
  | missing
  | isDirectory
  | noDirectory
  | notText
deriving DecidableEq

namespace FileFault

def message : FileFault → String
  | .missing => "No such file or directory (os error 2)"
  | .isDirectory => "Is a directory (os error 21)"
  | .noDirectory => "Not a directory (os error 20)"
  | .notText => "stream did not contain valid UTF-8"

end FileFault

namespace Place

/-- The text of the file at a place. -/
def read : Place → Except FileFault String
  | .vacant | .inMissingDirectory => .error .missing
  | .directory => .error .isDirectory
  | .belowFile => .error .noDirectory
  | .file content =>
      match String.fromUTF8? content with
      | some text => .ok text
      | none => .error .notText

/-- The place after a text is written to it. -/
def write (text : String) : Place → Except FileFault Place
  | .vacant | .file _ => .ok (.file text.toUTF8)
  | .inMissingDirectory => .error .missing
  | .directory => .error .isDirectory
  | .belowFile => .error .noDirectory

end Place

/-- Why a configuration cannot be loaded. -/
inductive LoadFault where
  | unreadable (cause : FileFault)
  | document (cause : DocumentFault)
deriving DecidableEq

namespace LoadFault

def fault : LoadFault → Fault
  | .unreadable cause => .configuration ("Failed to read config file: " ++ cause.message)
  | .document cause => cause.fault

end LoadFault

/-- Why a configuration cannot be saved. -/
inductive SaveFault where
  /-- A number is too large for a document. -/
  | unwritable
  | file (cause : FileFault)
deriving DecidableEq

namespace SaveFault

def message : SaveFault → String
  | .unwritable => "Failed to serialize config: out-of-range value for u64 type"
  | .file cause => "Failed to write config file: " ++ cause.message

def fault (fault : SaveFault) : Fault :=
  .configuration fault.message

end SaveFault

namespace Config

/-- The configuration in the file at a place. -/
def load (place : Place) : Except LoadFault Config :=
  match place.read with
  | .error cause => .error (.unreadable cause)
  | .ok text => (ofDocument text).mapError .document

/-- Saves a configuration: the outcome, and the place afterwards. -/
def save (config : Config) (place : Place) : Except SaveFault Unit × Place :=
  match config.toDocument? with
  | none => (.error .unwritable, place)
  | some text =>
      match place.write text with
      | .error cause => (.error (.file cause), place)
      | .ok written => (.ok (), written)

end Config

end Leadership
