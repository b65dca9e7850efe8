import Leadership.Tree

/-!
# Tables under construction

A TOML document defines its tables piece by piece, and most rules of the format
say which piece may follow which.  A `Node` is an entry of a table together with
what those rules need to know about it.

* A table that was opened by a heading of its own is *declared*.
* A table that only occurs inside the headings of others is *implied* and may
  still be declared, once.
* A table that comes from a dotted key is *dotted*: further dotted keys may add
  to it, and headings may not open it.
-/

namespace Leadership.Toml

/-- How a table came into being. -/
inductive Standing where
  | declared
  | implied
  | dotted
deriving DecidableEq

/-- An entry of a table. -/
inductive Node where
  | value (tree : Tree Empty)
  | table (standing : Standing) (entries : List (String × Node))
  /-- An array of tables, which is never empty; all are declared. -/
  | tables (earlier : List (List (String × Node))) (latest : List (String × Node))

/-- The entries of a table in the order in which they were made. -/
abbrev Entries := List (String × Node)

namespace Entries

/-- Changes the entry under a key, or makes one at the end. -/
def alter (key : String) (change : Option Node → Option Node) : Entries → Option Entries
  | [] => (change none).map (fun node => [(key, node)])
  | (other, node) :: entries =>
      if other = key then
        (change (some node)).map (fun node => (key, node) :: entries)
      else
        (alter key change entries).map ((other, node) :: ·)

/--
Gives a key behind a dotted path its value.  Tables on the path may be implied,
or the last of an array, but the table that receives the value must be the one
under construction, which `receives` stands for, or a dotted one.
-/
def assign (key : String) (tree : Tree Empty) :
    (path : List String) → (receives : Bool) → Entries → Option Entries
  | [], receives, entries =>
      if receives then
        alter key (fun
          | none => some (.value tree)
          | some _ => none) entries
      else
        none
  | step :: path, _, entries =>
      alter step (fun
        | none => (assign key tree path true []).map (.table .dotted)
        | some (.value _) => none
        | some (.table .declared _) => none
        | some (.table standing inner) =>
            (assign key tree path (standing = .dotted) inner).map (.table standing)
        | some (.tables earlier latest) =>
            (assign key tree path false latest).map (.tables earlier)) entries

/-- A key with its dotted path, and its value. -/
structure Pair where
  path : List String
  key : String
  tree : Tree Empty

/-- Adds pairs to a table, one after the other. -/
def assignAll (pairs : List Pair) (entries : Entries) : Option Entries :=
  pairs.foldlM (fun entries pair => assign pair.key pair.tree pair.path true entries) entries

/-- Changes the table at the end of a heading's path; tables on the way that are new are implied. -/
def within (change : Entries → Option Entries) :
    (path : List String) → Entries → Option Entries
  | [], entries => change entries
  | step :: path, entries =>
      alter step (fun
        | none => (within change path []).map (.table .implied)
        | some (.value _) => none
        | some (.table standing inner) => (within change path inner).map (.table standing)
        | some (.tables earlier latest) =>
            (within change path latest).map (.tables earlier)) entries

/--
Declares a table and fills it.  An implied table goes to the end when it is
declared.
-/
def declare (key : String) (fill : Entries → Option Entries) (entries : Entries) :
    Option Entries :=
  match entries.lookup key with
  | none => (fill []).map (fun inner => entries ++ [(key, .table .declared inner)])
  | some (.table .implied inner) =>
      (fill inner).map (fun inner =>
        entries.filter (fun entry => entry.1 ≠ key) ++ [(key, .table .declared inner)])
  | some _ => none

/-- Adds a table to an array of tables and fills it. -/
def append (key : String) (fill : Entries → Option Entries) : Entries → Option Entries :=
  alter key (fun
    | none => (fill []).map (.tables [])
    | some (.tables earlier latest) => (fill []).map (.tables (earlier ++ [latest]))
    | some _ => none)

end Entries

mutual

/-- The data of an entry. -/
def Node.toTree : Node → Tree Empty
  | .value tree => tree
  | .table _ entries => .record (entriesToTrees entries)
  | .tables earlier latest =>
      .list (tablesToTrees earlier ++ [.record (entriesToTrees latest)])

def entriesToTrees : List (String × Node) → List (String × Tree Empty)
  | [] => []
  | (key, node) :: entries => (key, node.toTree) :: entriesToTrees entries

def tablesToTrees : List (List (String × Node)) → List (Tree Empty)
  | [] => []
  | entries :: tables => .record (entriesToTrees entries) :: tablesToTrees tables

end

/-- The data of a table. -/
def Entries.toTree (entries : Entries) : Tree Empty :=
  .record (entriesToTrees entries)

end Leadership.Toml
