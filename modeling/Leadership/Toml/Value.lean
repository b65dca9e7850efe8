import Leadership.Toml.Moment
import Leadership.Toml.Number
import Leadership.Toml.Quoted
import Leadership.Toml.Table

/-!
# Keys and values in TOML text

A key is bare or quoted and may have a dotted path in front.  A value is a
scalar, an array or an inline table; arrays and inline tables are nested in each
other only so deep.
-/

namespace Leadership.Toml

/-- The most parts of a dotted key, and the most arrays and inline tables in each other. -/
def nestingLimit : Nat := 79

/-! ### Keys -/

def isBare (character : Char) : Bool :=
  character.isAlphanum || character = '_' || character = '-'

/-- One part of a key. -/
def readPart : List Char → Option (String × List Char)
  | '"' :: rest => (readBasic none rest).map (fun (content, rest) => (String.ofList content, rest))
  | '\'' :: rest => (readLiteral rest).map (fun (content, rest) => (String.ofList content, rest))
  | text =>
      match text.takeWhile isBare with
      | [] => none
      | content => some (String.ofList content, text.dropWhile isBare)

/-- The parts of a key with blanks around its dots. -/
def readParts : (limit : Nat) → List Char → Option (List String × List Char)
  | 0, _ => none
  | limit + 1, text => do
      let (part, rest) ← readPart (skipBlank text)
      match skipBlank rest with
      | '.' :: rest => do
          let (parts, rest) ← readParts limit rest
          return (part :: parts, rest)
      | rest => return ([part], rest)

/-- A key: the path before its last part, and that part. -/
def readKey (text : List Char) : Option ((List String × String) × List Char) := do
  let (parts, rest) ← readParts nestingLimit text
  let last ← parts.getLast?
  return ((parts.dropLast, last), rest)

/-! ### Values -/

/-- A reader of values. -/
abbrev ValueReader := List Char → Option (Tree Empty × List Char)

/-- The items of an array, from one item to the closing bracket. -/
def readItems (readItem : ValueReader) : (fuel : Nat) → List Char →
    Option (List (Tree Empty) × List Char)
  | 0, _ => none
  | fuel + 1, text => do
      let (item, rest) ← readItem (← skipSpace false text)
      match ← skipSpace false rest with
      | ']' :: rest => return ([item], rest)
      | ',' :: rest =>
          match ← skipSpace false rest with
          | ']' :: rest => return ([item], rest)
          | rest => do
              let (items, rest) ← readItems readItem fuel rest
              return (item :: items, rest)
      | _ => none

/-- An array behind its opening bracket. -/
def readArray (readItem : ValueReader) (text : List Char) : Option (Tree Empty × List Char) := do
  match ← skipSpace false text with
  | ']' :: rest => return (.list [], rest)
  | text => do
      let (items, rest) ← readItems readItem (text.length + 1) text
      return (.list items, rest)

/-- A key with its value. -/
def readPair (readItem : ValueReader) (text : List Char) : Option (Entries.Pair × List Char) := do
  let ((path, key), rest) ← readKey text
  match rest with
  | '=' :: rest => do
      let (tree, rest) ← readItem (skipBlank rest)
      return (⟨path, key, tree⟩, rest)
  | _ => none

/-- The pairs of an inline table, from one pair to the closing bracket. -/
def readPairs (readItem : ValueReader) : (fuel : Nat) → List Char →
    Option (List Entries.Pair × List Char)
  | 0, _ => none
  | fuel + 1, text => do
      let (pair, rest) ← readPair readItem text
      match skipBlank rest with
      | '}' :: rest => return ([pair], rest)
      | ',' :: rest => do
          let (pairs, rest) ← readPairs readItem fuel rest
          return (pair :: pairs, rest)
      | _ => none

/-- An inline table behind its opening bracket. -/
def readInline (readItem : ValueReader) (text : List Char) : Option (Tree Empty × List Char) := do
  match skipBlank text with
  | '}' :: rest => return (.record [], rest)
  | text => do
      let (pairs, rest) ← readPairs readItem (text.length + 1) text
      let entries ← Entries.assignAll pairs []
      return (entries.toTree, rest)

/-- A value that is no array and no inline table. -/
def readScalar (text : List Char) : Option (Tree Empty × List Char) :=
  match text with
  | 't' :: 'r' :: 'u' :: 'e' :: rest => some (.bool true, rest)
  | 'f' :: 'a' :: 'l' :: 's' :: 'e' :: rest => some (.bool false, rest)
  | _ =>
      match readString text with
      | some (content, rest) => some (.text (String.ofList content), rest)
      | none => readMoment text <|> readNumber text

/-- A value with at most `depth` arrays and inline tables in each other. -/
def readValue : (depth : Nat) → ValueReader
  | depth + 1, '[' :: rest => readArray (readValue depth) rest
  | depth + 1, '{' :: rest => readInline (readValue depth) rest
  | _, text => readScalar text

end Leadership.Toml
