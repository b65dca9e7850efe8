import Leadership.Json.Outline

/-!
# JSON values

A value that is known in full before anybody looks into it.  Its maps have each
key once and in order: of a repeated key the last entry counts.
-/

namespace Leadership.Json

open Leadership.Text

/-- A tree without gaps. -/
abbrev Value := Tree Empty

/-- Puts an entry at its place in a sorted map, in place of one with the same key. -/
def putSorted {item : Type} (key : String) (value : item) :
    List (String × item) → List (String × item)
  | [] => [(key, value)]
  | (other, old) :: entries =>
      if key = other then (key, value) :: entries
      else if key < other then (key, value) :: (other, old) :: entries
      else (other, old) :: putSorted key value entries

/-- The entries in the order of their keys, the last of each key. -/
def sortEntries {item : Type} (entries : List (String × item)) : List (String × item) :=
  entries.foldl (fun sorted (key, value) => putSorted key value sorted) []

mutual

/-- The value of a tree without gaps. -/
def settle : Tree Malformed → Option Value
  | .null => some .null
  | .bool value => some (.bool value)
  | .int value => some (.int value)
  | .float text => some (.float text)
  | .text value => some (.text value)
  | .seq items none => (settleItems items).map .list
  | .map entries none => (settleEntries entries).map (fun entries => .record (sortEntries entries))
  | .seq _ (some _) | .map _ (some _) | .hole _ => none

def settleItems : List (Tree Malformed) → Option (List Value)
  | [] => some []
  | item :: items => do
      return (← settle item) :: (← settleItems items)

def settleEntries : List (String × Tree Malformed) → Option (List (String × Value))
  | [] => some []
  | (key, item) :: entries => do
      return (key, ← settle item) :: (← settleEntries entries)

end

/-- The value that a text holds, if it is JSON. -/
def Value.ofText? (text : String) : Option Value :=
  let outline := Outline.ofText text
  if outline.ended then settle outline.tree else none

mutual

/-- A value as text without blanks. -/
def write : Value → List Char
  | .null => ['n', 'u', 'l', 'l']
  | .bool true => ['t', 'r', 'u', 'e']
  | .bool false => ['f', 'a', 'l', 's', 'e']
  | .int (.ofNat number) => digitsOf 10 number
  | .int (.negSucc number) => '-' :: digitsOf 10 (number + 1)
  | .float text => text.toList
  | .text value => quote value
  | .seq items _ => '[' :: writeItems items
  | .map entries _ => '{' :: writeEntries entries

/-- The items of a sequence and its closing bracket. -/
def writeItems : List Value → List Char
  | [] => [']']
  | [item] => write item ++ [']']
  | item :: items => write item ++ ',' :: writeItems items

/-- The entries of a map and its closing bracket. -/
def writeEntries : List (String × Value) → List Char
  | [] => ['}']
  | [(key, item)] => quote key ++ ':' :: write item ++ ['}']
  | (key, item) :: entries => quote key ++ ':' :: write item ++ ',' :: writeEntries entries

end

/-- The compact text of a value. -/
def Value.toText (value : Value) : String :=
  String.ofList (write value)

end Leadership.Json
