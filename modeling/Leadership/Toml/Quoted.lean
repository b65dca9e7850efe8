import Leadership.Toml.Lexical

/-!
# Strings in TOML text

There are four forms: basic strings with escapes and literal strings without,
each on one line or, between tripled quotes, on several.  Reading goes one
character at a time and remembers how far an escape has come.  Writing chooses
the first form that shows the string without escapes, if there is one.
-/

namespace Leadership.Toml

open Leadership.Text

/-! ### Reading -/

/-- How far an escape has come. -/
inductive Escape where
  /-- Only the backslash has been read. -/
  | opened
  /-- So many hexadecimal digits are left, and those read have a value. -/
  | number (left value : Nat)
deriving DecidableEq

/-- What a further character makes of an escape. -/
inductive Progress where
  | going (escape : Escape)
  | done (character : Char)
deriving DecidableEq

/-- The character with a number, unless it is a surrogate or too large. -/
def scalar? (number : Nat) : Option Char :=
  if valid : number.isValidChar then some (Char.ofNatAux number valid) else none

/-- The escape of a letter behind a backslash. -/
def openEscape : Char → Option Progress
  | 'b' => some (.done '\x08')
  | 't' => some (.done '\t')
  | 'n' => some (.done '\n')
  | 'f' => some (.done '\x0c')
  | 'r' => some (.done '\r')
  | '"' => some (.done '"')
  | '\\' => some (.done '\\')
  | 'u' => some (.going (.number 4 0))
  | 'U' => some (.going (.number 8 0))
  | _ => none

/-- Takes one more character into an escape. -/
def Escape.advance (character : Char) : Escape → Option Progress
  | .opened => openEscape character
  | .number left value =>
      if isDigitOf 16 character then
        let value := value * 16 + digitValue character
        if left ≤ 1 then (scalar? value).map .done
        else some (.going (.number (left - 1) value))
      else
        none

/-- Puts a character in front of what was read. -/
def emit (character : Char) :
    Option (List Char × List Char) → Option (List Char × List Char) :=
  Option.map (fun (content, rest) => (character :: content, rest))

/-- The content of a basic string up to its closing quote, and the text behind it. -/
def readBasic : (escape : Option Escape) → List Char → Option (List Char × List Char)
  | _, [] => none
  | some escape, character :: rest =>
      match escape.advance character with
      | none => none
      | some (.going escape) => readBasic (some escape) rest
      | some (.done value) => emit value (readBasic none rest)
  | none, character :: rest =>
      if character = '"' then some ([], rest)
      else if character = '\\' then readBasic (some .opened) rest
      else if isPlain character then emit character (readBasic none rest)
      else none

/-- The content of a literal string up to its closing quote, and the text behind it. -/
def readLiteral : List Char → Option (List Char × List Char)
  | [] => none
  | character :: rest =>
      if character = '\'' then some ([], rest)
      else if isPlain character then emit character (readLiteral rest)
      else none

/--
The end of a long string at a quote: the quotes that belong to the content and
the text behind the closing three, if three follow at all.  Of five quotes the
first two belong to the content.
-/
def closeLong (quote : Char) : List Char → Option (List Char × List Char)
  | first :: second :: third :: rest =>
      if first = quote ∧ second = quote ∧ third = quote then
        match rest with
        | fourth :: fifth :: rest =>
            if fourth = quote ∧ fifth = quote then some ([quote, quote], rest)
            else if fourth = quote then some ([quote], fifth :: rest)
            else some ([], fourth :: fifth :: rest)
        | [fourth] => if fourth = quote then some ([quote], []) else some ([], [fourth])
        | [] => some ([], [])
      else
        none
  | _ => none

/-- Where the reading of a long basic string stands. -/
inductive LongState where
  | plain
  | within (escape : Escape)
  /-- Behind a backslash and blanks, with a line end to come. -/
  | lineEnd
  /-- Behind a line end that a backslash takes away, with all blanks that follow. -/
  | trimming
deriving DecidableEq

/-- The content of a long basic string, and the text behind its closing quotes. -/
def readLongBasic : LongState → List Char → Option (List Char × List Char)
  | _, [] => none
  | .within escape, character :: rest =>
      if escape = .opened ∧ isBlank character then readLongBasic .lineEnd rest
      else if escape = .opened ∧ character = '\n' then readLongBasic .trimming rest
      else
        match escape.advance character with
        | none => none
        | some (.going escape) => readLongBasic (.within escape) rest
        | some (.done value) => emit value (readLongBasic .plain rest)
  | .lineEnd, character :: rest =>
      if isBlank character then readLongBasic .lineEnd rest
      else if character = '\n' then readLongBasic .trimming rest
      else none
  | state, character :: rest =>
      if state = .trimming ∧ (isBlank character ∨ character = '\n') then
        readLongBasic .trimming rest
      else
        match closeLong '"' (character :: rest) with
        | some ended => some ended
        | none =>
            if character = '\\' then readLongBasic (.within .opened) rest
            else if isPlain character ∨ character = '\n' then
              emit character (readLongBasic .plain rest)
            else none

/-- The content of a long literal string, and the text behind its closing quotes. -/
def readLongLiteral : List Char → Option (List Char × List Char)
  | [] => none
  | character :: rest =>
      match closeLong '\'' (character :: rest) with
      | some ended => some ended
      | none =>
          if isPlain character ∨ character = '\n' then emit character (readLongLiteral rest)
          else none

/-- A line end right behind the opening quotes of a long string does not count. -/
def dropLineEnd : List Char → List Char
  | '\n' :: rest => rest
  | text => text

/-- A string in any of the four forms. -/
def readString : List Char → Option (List Char × List Char)
  | '"' :: '"' :: '"' :: rest => readLongBasic .plain (dropLineEnd rest)
  | '"' :: rest => readBasic none rest
  | '\'' :: '\'' :: '\'' :: rest => readLongLiteral (dropLineEnd rest)
  | '\'' :: rest => readLiteral rest
  | _ => none

/-! ### Writing -/

/-- The forms of a string. -/
inductive Form where
  | basic
  | literal
  | longBasic
  | longLiteral
deriving DecidableEq

/-- Whether a character cannot stand for itself in any form. -/
def isControl (character : Char) : Bool :=
  !(isPlain character || character = '\n')

/-- The length of the run of a character in front, and of the longest run anywhere. -/
def runs (wanted : Char) : List Char → Nat × Nat
  | [] => (0, 0)
  | character :: rest =>
      let (leading, longest) := runs wanted rest
      let leading := if character = wanted then leading + 1 else 0
      (leading, max leading longest)

def longestRun (wanted : Char) (content : List Char) : Nat :=
  (runs wanted content).2

/-- The first form that shows a string as it is, and otherwise a basic one. -/
def formOf (content : List Char) : Form :=
  let clean := !content.any isControl
  let oneLine := !content.contains '\n'
  let noEscape := clean && !content.contains '\\'
  if noEscape && oneLine && longestRun '"' content = 0 then .basic
  else if clean && oneLine && longestRun '\'' content = 0 then .literal
  else if noEscape && longestRun '"' content ≤ 2 then .longBasic
  else if clean && longestRun '\'' content ≤ 2 then .longLiteral
  else if oneLine then .basic
  else .longBasic

/-- A character other than a quote in a basic string on one line. -/
def escapeCharacter (character : Char) : List Char :=
  match character with
  | '\x08' => ['\\', 'b']
  | '\t' => ['\\', 't']
  | '\n' => ['\\', 'n']
  | '\x0c' => ['\\', 'f']
  | '\r' => ['\\', 'r']
  | '\\' => ['\\', '\\']
  | _ =>
      if isControl character then
        '\\' :: 'u' :: (paddedDigits 16 4 character.toNat).map Char.toUpper
      else
        [character]

def writeBasic (content : List Char) : List Char :=
  content.flatMap (fun character =>
    if character = '"' then ['\\', '"'] else escapeCharacter character)

/-- Line ends stand for themselves, and of three quotes in a row the third is escaped. -/
def writeLongBasic : (quotes : Nat) → List Char → List Char
  | _, [] => []
  | quotes, character :: rest =>
      if character = '"' then
        if quotes = 2 then '\\' :: '"' :: writeLongBasic 0 rest
        else '"' :: writeLongBasic (quotes + 1) rest
      else if character = '\n' then '\n' :: writeLongBasic 0 rest
      else escapeCharacter character ++ writeLongBasic 0 rest

/-- A string in the form chosen for it. -/
def writeString (content : List Char) : List Char :=
  let opening := if content.contains '\n' then ['\n'] else []
  match formOf content with
  | .basic => '"' :: writeBasic content ++ ['"']
  | .literal => '\'' :: content ++ ['\'']
  | .longBasic => ['"', '"', '"'] ++ opening ++ writeLongBasic 0 content ++ ['"', '"', '"']
  | .longLiteral => ['\'', '\'', '\''] ++ opening ++ content ++ ['\'', '\'', '\'']

end Leadership.Toml
