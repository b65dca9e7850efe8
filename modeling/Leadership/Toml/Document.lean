import Leadership.Toml.Value

/-!
# TOML documents

A document is a sequence of statements, each on lines of its own: pairs of a key
and a value, headings that declare a table, and headings that add one to an array
of tables.  The pairs behind a heading belong to its table.
-/

namespace Leadership.Toml

/-- What opens a table. -/
inductive Heading where
  | table (path : List String) (key : String)
  | tables (path : List String) (key : String)

/-- A line of a document that says something. -/
inductive Statement where
  | pair (pair : Entries.Pair)
  | heading (heading : Heading)

/-! ### Statements from text -/

/-- A pair and the end of its line. -/
def readPairLine (text : List Char) : Option (Statement × List Char) := do
  let (pair, rest) ← readPair (readValue nestingLimit) text
  return (.pair pair, ← endLine? rest)

/-- A heading and the end of its line, behind the opening bracket. -/
def readHeadingLine : List Char → Option (Statement × List Char)
  | '[' :: text => do
      let ((path, key), rest) ← readKey text
      match rest with
      | ']' :: ']' :: rest => return (.heading (.tables path key), ← endLine? rest)
      | _ => none
  | text => do
      let ((path, key), rest) ← readKey text
      match rest with
      | ']' :: rest => return (.heading (.table path key), ← endLine? rest)
      | _ => none

/-- The statements of a text; lines without one are passed over. -/
def readStatements : (fuel : Nat) → List Char → Option (List Statement)
  | 0, _ => none
  | fuel + 1, text =>
      match skipBlank text with
      | [] => some []
      | '\n' :: rest => readStatements fuel rest
      | '#' :: rest => do readStatements fuel (← endLine? ('#' :: rest))
      | '[' :: rest => do
          let (statement, rest) ← readHeadingLine rest
          return statement :: (← readStatements fuel rest)
      | text => do
          let (statement, rest) ← readPairLine text
          return statement :: (← readStatements fuel rest)

/-- A mark of the byte order may stand in front. -/
def dropMark : List Char → List Char
  | '\ufeff' :: rest => rest
  | text => text

/-- All statements of a text.  Each takes at least one character. -/
def statements? (text : String) : Option (List Statement) :=
  let characters := unifyLines (dropMark text.toList)
  readStatements (characters.length + 1) characters

/-! ### Tables from statements -/

/-- A heading with its pairs. -/
structure Section where
  heading : Heading
  pairs : List Entries.Pair

/-- The pairs before the first heading, and the sections behind them. -/
def sections : List Statement → List Entries.Pair × List Section
  | [] => ([], [])
  | .pair pair :: rest =>
      let (pairs, others) := sections rest
      (pair :: pairs, others)
  | .heading heading :: rest =>
      let (pairs, others) := sections rest
      ([], ⟨heading, pairs⟩ :: others)

/-- Adds the table of a section to a document. -/
def Section.addTo (part : Section) (entries : Entries) : Option Entries :=
  match part.heading with
  | .table path key => entries.within (Entries.declare key (Entries.assignAll part.pairs)) path
  | .tables path key => entries.within (Entries.append key (Entries.assignAll part.pairs)) path

/-- The tables that some statements build, unless they contradict each other. -/
def build? (statements : List Statement) : Option Entries := do
  let (pairs, parts) := sections statements
  let root ← Entries.assignAll pairs []
  parts.foldlM (fun entries part => part.addTo entries) root

/-- The data of a document, if its text is one. -/
def tree? (text : String) : Option (Tree Empty) := do
  let statements ← statements? text
  let entries ← build? statements
  return entries.toTree

end Leadership.Toml
