import Leadership.Toml.Document

/-!
# Laying out a document

The lines of a document that this library writes, and their text.  They are few:
pairs with a bare key, and headings with bare keys, each of which has a blank
line in front.
-/

namespace Leadership.Toml

open Leadership.Text

/-- A value that a line can show. -/
inductive Item where
  | number (value : Nat)
  | text (value : String)
  | noItems
deriving DecidableEq

/-- A line of a document. -/
inductive Line where
  | pair (key : String) (item : Item)
  | table (path : List String) (key : String)
  | tables (key : String)
deriving DecidableEq

namespace Item

def write : Item → List Char
  | .number value => digitsOf 10 value
  | .text value => writeString value.toList
  | .noItems => ['[', ']']

/-- The data that an item shows. -/
def toTree : Item → Tree Empty
  | .number value => .nat value
  | .text value => .text value
  | .noItems => .list []

end Item

namespace Line

/-- The parts of a key with dots between them. -/
def dotted (path : List String) (key : String) : List Char :=
  path.flatMap (fun part => part.toList ++ ['.']) ++ key.toList

def write : Line → List Char
  | .pair key item => key.toList ++ [' ', '=', ' '] ++ item.write ++ ['\n']
  | .table path key => ['\n', '['] ++ dotted path key ++ [']', '\n']
  | .tables key => ['\n', '[', '['] ++ key.toList ++ [']', ']', '\n']

/-- What a line says. -/
def statement : Line → Statement
  | .pair key item => .pair ⟨[], key, item.toTree⟩
  | .table path key => .heading (.table path key)
  | .tables key => .heading (.tables [] key)

end Line

/-- The text of a document. -/
def writeLines (lines : List Line) : String :=
  String.ofList (lines.flatMap Line.write)

end Leadership.Toml
