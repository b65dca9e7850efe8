import Leadership.Text.Quoted
import Leadership.Tree

/-!
# Mismatches

Why a data tree is not what was expected of it.  `Mismatch.message` words each
cause; `Mismatch.malformed` stands for text that breaks off, about which nothing
more is said.
-/

namespace Leadership

/-- What a tree is found to be. -/
inductive Shape where
  | null
  | bool (value : Bool)
  | int (value : Int)
  | float (text : String)
  | text (value : String)
  | sequence
  | map
deriving DecidableEq

/-- What a tree should be. -/
inductive Expected where
  | word64
  | word32
  | text
  | sequence
  | endpoint
  | span
  | patience
  | member
  | config
deriving DecidableEq

/-- A reason why a tree cannot be read. -/
inductive Mismatch where
  | wrongShape (found : Shape) (expected : Expected)
  | outOfRange (value : Int) (expected : Expected)
  | missingField (field : String)
  | repeatedField (field : String)
  /-- A field that has no place, and the fields that have one. -/
  | unknownField (field : String) (known : List String)
  | tooFew (length : Nat) (expected : Expected)
  | tooMany (length : Nat)
  | spanOverflow
  | badEndpoint
  | malformed
deriving DecidableEq

/-- An integer in decimal digits. -/
def decimalInt : Int → String
  | .ofNat number => number.repr
  | .negSucc number => "-" ++ (number + 1).repr

/-- A word or a number between grave accents. -/
def marked (text : String) : String :=
  "`" ++ text ++ "`"

namespace Shape

def describe : Shape → String
  | .null => "null"
  | .bool true => "boolean " ++ marked "true"
  | .bool false => "boolean " ++ marked "false"
  | .int value => "integer " ++ marked (decimalInt value)
  | .float value => "floating point " ++ marked value
  | .text value => "string " ++ Text.quoted value
  | .sequence => "sequence"
  | .map => "map"

end Shape

namespace Expected

def name : Expected → String
  | .word64 => "u64"
  | .word32 => "u32"
  | .text => "a string"
  | .sequence => "a sequence"
  | .endpoint => "socket address"
  | .span => "struct Duration"
  | .patience => "struct LeaderWaitConfig"
  | .member => "struct MemberConfig"
  | .config => "struct ClusterConfig"

/-- How a sequence that is too short is told what was expected. -/
def lengthName : Expected → String
  | .patience => Expected.patience.name ++ " with 2 elements"
  | .member => Expected.member.name ++ " with 3 elements"
  | .config => Expected.config.name ++ " with 4 elements"
  | other => other.name

end Expected

namespace Mismatch

def message : Mismatch → String
  | .wrongShape found expected =>
      "invalid type: " ++ found.describe ++ ", expected " ++ expected.name
  | .outOfRange value expected =>
      "invalid value: integer " ++ marked (decimalInt value) ++ ", expected " ++ expected.name
  | .missingField field => "missing field " ++ marked field
  | .repeatedField field => "duplicate field " ++ marked field
  | .unknownField field known =>
      "unknown field " ++ marked field ++ ", expected " ++
        " or ".intercalate (known.map marked)
  | .tooFew length expected =>
      "invalid length " ++ length.repr ++ ", expected " ++ expected.lengthName
  | .tooMany length =>
      "invalid length " ++ length.repr ++ ", expected fewer elements in array"
  | .spanOverflow => "overflow deserializing Duration"
  | .badEndpoint => "invalid socket address syntax"
  | .malformed => "malformed text"

end Mismatch

namespace Tree

variable {gap : Type}

/-- What a tree is found to be; a hole is nothing. -/
def shape? : Tree gap → Option Shape
  | .null => some .null
  | .bool value => some (.bool value)
  | .int value => some (.int value)
  | .float digits => some (.float digits)
  | .text value => some (.text value)
  | .seq _ _ => some .sequence
  | .map _ _ => some .map
  | .hole _ => none

/-- The mismatch of a tree that is not what was expected. -/
def mismatch (tree : Tree gap) (expected : Expected) : Mismatch :=
  match tree.shape? with
  | some found => .wrongShape found expected
  | none => .malformed

end Tree

end Leadership
