/-!
# Data trees

What a document says, before it is read as a configuration: scalars, sequences
and maps whose entries keep their order.  A tree read from text that breaks off
records where: `hole` stands for a value that cannot be read, and a container
that is not properly closed carries what broke it after its readable part.  A
tree without such places is a `Tree Empty`.
-/

namespace Leadership

/-- A tree of data with gaps of type `gap`. -/
inductive Tree (gap : Type) where
  | null
  | bool (value : Bool)
  | int (value : Int)
  /-- A floating point number, known by its text. -/
  | float (text : String)
  | text (value : String)
  | seq (items : List (Tree gap)) (broken : Option gap)
  | map (entries : List (String × Tree gap)) (broken : Option gap)
  | hole (fault : gap)

namespace Tree

variable {gap : Type}

/-- A sequence that is closed. -/
def list (items : List (Tree gap)) : Tree gap :=
  .seq items none

/-- A map that is closed. -/
def record (entries : List (String × Tree gap)) : Tree gap :=
  .map entries none

/-- A natural number as a tree. -/
def nat (number : Nat) : Tree gap :=
  .int number

/-- The value under a key, the first one if the key is repeated. -/
def get? (key : String) : Tree gap → Option (Tree gap)
  | .map entries _ => entries.lookup key
  | _ => none

end Tree

end Leadership
