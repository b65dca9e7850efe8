import Leadership.Text.Digits
import Leadership.Text.Hidden

/-!
# Text shown in messages

A message that quotes a piece of text shows it between double quotes, on one
line, and so that every character can be told from what is printed.
-/

namespace Leadership.Text

/-- A character by its number in hexadecimal digits, between braces. -/
def byNumber (character : Char) : List Char :=
  '\\' :: 'u' :: '\x7b' :: digitsOf 16 character.toNat ++ ['\x7d']

/-- A character as it stands in quoted text. -/
def shown (character : Char) : List Char :=
  match character with
  | '\x00' => ['\\', '0']
  | '\t' => ['\\', 't']
  | '\n' => ['\\', 'n']
  | '\r' => ['\\', 'r']
  | '"' => ['\\', '"']
  | '\\' => ['\\', '\\']
  | _ => if isHidden character then byNumber character else [character]

/-- A text between double quotes. -/
def quoted (text : String) : String :=
  String.ofList ('"' :: text.toList.flatMap shown ++ ['"'])

end Leadership.Text
