import Leadership.Json.Numeral
import Leadership.Json.Quoted

/-!
# The outline of JSON text

Text is read from the front as far as its grammar allows, and what is read stays
known although the text breaks off later.  A value that cannot be read at all is
a hole, and a container in which the text breaks off carries the break behind its
readable part.

Some values are well-formed and yet have no meaning: a string with a lone
surrogate, and a number beyond all doubles.  Such a value is a hole with readable
text behind it, because a reader that passes over the value does not mind.
-/

namespace Leadership.Json

open Leadership.Text

/-- The mark of a place where text is not JSON. -/
structure Malformed where
deriving DecidableEq

/-- A tree from JSON text, with the text behind it unless that is out of reach. -/
abbrev Reading := Tree Malformed × Option (List Char)

/-- The reading of text that is no value. -/
def Reading.broken : Reading :=
  (.hole ⟨⟩, none)

def isBlank (character : Char) : Bool :=
  character = ' ' || character = '\n' || character = '\t' || character = '\r'

def skipBlank (text : List Char) : List Char :=
  text.dropWhile isBlank

/-- A string behind its opening quote. -/
def readString (text : List Char) : Reading :=
  match scanPieces text with
  | none => .broken
  | some (pieces, rest) =>
      match joinPieces pieces with
      | none => (.hole ⟨⟩, some rest)
      | some characters => (.text (String.ofList characters), some rest)

def readNumber (text : List Char) : Reading :=
  match Numeral.scan text with
  | none => .broken
  | some (numeral, rest) => (numeral.value?.getD (.hole ⟨⟩), some rest)

/-- The readable part of a container, the break behind it, and the text behind all of it. -/
abbrev Contents (item : Type) := List item × Option Malformed × Option (List Char)

/-- Contents in which nothing is readable any more. -/
def Contents.broken {item : Type} : Contents item :=
  ([], some ⟨⟩, none)

/-- An item in front of others. -/
def Contents.cons {item : Type} (first : item) (others : Contents item) : Contents item :=
  (first :: others.1, others.2)

/-- The items of a sequence, from one item to the closing bracket. -/
def readItems (readItem : List Char → Reading) : (fuel : Nat) → List Char →
    Contents (Tree Malformed)
  | 0, _ => .broken
  | fuel + 1, text =>
      match readItem text with
      | (item, none) => .cons item .broken
      | (item, some rest) =>
          match skipBlank rest with
          | ',' :: rest => .cons item (readItems readItem fuel rest)
          | ']' :: rest => .cons item ([], none, some rest)
          | _ => .cons item .broken

/-- A value behind the colon that parts it from its key. -/
def readBehindColon (readItem : List Char → Reading) (text : List Char) : Reading :=
  match skipBlank text with
  | ':' :: rest => readItem rest
  | _ => .broken

/--
The entries of a map, from one key to the closing bracket.  A key without
meaning ends the readable part, though the text behind it may go on.
-/
def readEntries (readItem : List Char → Reading) : (fuel : Nat) → List Char →
    Contents (String × Tree Malformed)
  | 0, _ => .broken
  | fuel + 1, text =>
      match skipBlank text with
      | '"' :: text =>
          match scanPieces text with
          | none => .broken
          | some (pieces, rest) =>
              let (item, rest) := readBehindColon readItem rest
              let others : Contents (String × Tree Malformed) :=
                match rest.map skipBlank with
                | some (',' :: rest) => readEntries readItem fuel rest
                | some ('}' :: rest) => ([], none, some rest)
                | _ => .broken
              match joinPieces pieces with
              | some key => .cons (String.ofList key, item) others
              | none => ([], some ⟨⟩, others.2.2)
      | _ => .broken

/-- A sequence behind its opening bracket. -/
def readSequence (readItem : List Char → Reading) (text : List Char) : Reading :=
  match skipBlank text with
  | ']' :: rest => (.seq [] none, some rest)
  | _ =>
      let (items, broken, rest) := readItems readItem (text.length + 1) text
      (.seq items broken, rest)

/-- A map behind its opening bracket. -/
def readMap (readItem : List Char → Reading) (text : List Char) : Reading :=
  match skipBlank text with
  | '}' :: rest => (.map [] none, some rest)
  | _ =>
      let (entries, broken, rest) := readEntries readItem (text.length + 1) text
      (.map entries broken, rest)

/-- A value with fewer than `depth` containers nested in each other. -/
def readValue : (depth : Nat) → List Char → Reading
  | 0, _ => .broken
  | depth + 1, text =>
      match skipBlank text with
      | '"' :: rest => readString rest
      | '[' :: rest => readSequence (readValue depth) rest
      | '{' :: rest => readMap (readValue depth) rest
      | 'n' :: 'u' :: 'l' :: 'l' :: rest => (.null, some rest)
      | 't' :: 'r' :: 'u' :: 'e' :: rest => (.bool true, some rest)
      | 'f' :: 'a' :: 'l' :: 's' :: 'e' :: rest => (.bool false, some rest)
      | text => readNumber text

/-- A whole JSON text. -/
structure Outline where
  tree : Tree Malformed
  /-- Whether the text holds nothing but this one value. -/
  ended : Bool

/-- Every text has an outline: each container takes a character, so its depth is bounded. -/
def Outline.ofText (text : String) : Outline :=
  let characters := text.toList
  match readValue (characters.length + 1) characters with
  | (tree, none) => ⟨tree, false⟩
  | (tree, some rest) => ⟨tree, (skipBlank rest).isEmpty⟩

end Leadership.Json
