import Leadership.Text.Digits

/-!
# Blanks, line ends and comments

The parts of a TOML text that carry no data.  A carriage return in front of a
line feed means nothing and is taken out first, so that a line ends with a line
feed alone and every other carriage return is out of place.
-/

namespace Leadership.Toml

/-- The text with each pair of carriage return and line feed made one line feed. -/
def unifyLines : List Char → List Char
  | [] => []
  | '\r' :: '\n' :: rest => '\n' :: unifyLines rest
  | character :: rest => character :: unifyLines rest

def isBlank (character : Char) : Bool :=
  character = ' ' || character = '\t'

def skipBlank (text : List Char) : List Char :=
  text.dropWhile isBlank

/-- Whether a character is printable or beyond ASCII; a tab counts as printable. -/
def isPlain (character : Char) : Bool :=
  character = '\t' || 0x20 ≤ character.toNat && character.toNat ≠ 0x7f

/-- Passes over a comment, if there is one. -/
def skipComment : List Char → List Char
  | '#' :: rest => rest.dropWhile isPlain
  | text => text

/-- The text behind the end of a line, which may have a comment. -/
def endLine? (text : List Char) : Option (List Char) :=
  match skipComment (skipBlank text) with
  | [] => some []
  | '\n' :: rest => some rest
  | _ => none

/--
Passes over blanks, line ends and comments.  There is nothing to return if a
comment is not ended by its line, or holds a control character.
-/
def skipSpace : (inComment : Bool) → List Char → Option (List Char)
  | false, [] => some []
  | true, [] => none
  | false, character :: rest =>
      if isBlank character || character = '\n' then skipSpace false rest
      else if character = '#' then skipSpace true rest
      else some (character :: rest)
  | true, character :: rest =>
      if character = '\n' then skipSpace false rest
      else if isPlain character then skipSpace true rest
      else none

end Leadership.Toml
