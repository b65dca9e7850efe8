import Leadership.Text.Digits

/-!
# Quoted strings in JSON text

A string is scanned into characters and 16-bit units, the latter from `\u`
escapes, and joined afterwards: two units that form a surrogate pair are one
character, and a lone surrogate has no text.  `quote` writes a string with as few
escapes as the format allows.
-/

namespace Leadership.Json

open Leadership.Text

/-- A part of a string as it is written. -/
inductive Piece where
  | char (value : Char)
  /-- A 16-bit unit given by its number. -/
  | unit (value : Nat)
deriving DecidableEq

/-- The character that a backslash and a letter stand for. -/
def escaped? : Char → Option Char
  | '"' => some '"'
  | '\\' => some '\\'
  | '/' => some '/'
  | 'b' => some '\x08'
  | 'f' => some '\x0c'
  | 'n' => some '\n'
  | 'r' => some '\r'
  | 't' => some '\t'
  | _ => none

/-- The pieces of a string up to its closing quote, and the text behind it. -/
def scanPieces : List Char → Option (List Piece × List Char)
  | [] => none
  | '"' :: rest => some ([], rest)
  | '\\' :: 'u' :: first :: second :: third :: fourth :: rest => do
      let number ← hexNumber? [first, second, third, fourth]
      let (pieces, rest) ← scanPieces rest
      return (.unit number :: pieces, rest)
  | '\\' :: letter :: rest => do
      let value ← escaped? letter
      let (pieces, rest) ← scanPieces rest
      return (.char value :: pieces, rest)
  | character :: rest =>
      if character.toNat < 0x20 then
        none
      else do
        let (pieces, rest) ← scanPieces rest
        return (.char character :: pieces, rest)

/-- The character of a surrogate pair. -/
def ofSurrogates? (high low : Nat) : Option Char :=
  if 0xD800 ≤ high ∧ high < 0xDC00 ∧ 0xDC00 ≤ low ∧ low < 0xE000 then
    some (Char.ofNat (0x10000 + (high - 0xD800) * 0x400 + (low - 0xDC00)))
  else
    none

/-- The characters that some pieces stand for, unless a surrogate is left over. -/
def joinPieces : List Piece → Option (List Char)
  | [] => some []
  | .char value :: pieces => (joinPieces pieces).map (value :: ·)
  | .unit high :: pieces =>
      if high < 0xD800 ∨ 0xE000 ≤ high then
        (joinPieces pieces).map (Char.ofNat high :: ·)
      else
        match pieces with
        | .unit low :: pieces =>
            match ofSurrogates? high low with
            | some value => (joinPieces pieces).map (value :: ·)
            | none => none
        | _ => none

/-- A character inside quotes. -/
def escape (character : Char) : List Char :=
  if character = '"' then ['\\', '"']
  else if character = '\\' then ['\\', '\\']
  else if character = '\x08' then ['\\', 'b']
  else if character = '\x0c' then ['\\', 'f']
  else if character = '\n' then ['\\', 'n']
  else if character = '\r' then ['\\', 'r']
  else if character = '\t' then ['\\', 't']
  else if character.toNat < 0x20 then
    '\\' :: 'u' :: paddedDigits 16 4 character.toNat
  else
    [character]

/-- A string in quotes. -/
def quote (text : String) : List Char :=
  '"' :: text.toList.flatMap escape ++ ['"']

end Leadership.Json
