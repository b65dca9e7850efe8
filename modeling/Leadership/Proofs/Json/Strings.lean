import Leadership.Json.Outline
import Leadership.Proofs.Text.Digits
import Mathlib.Tactic.SplitIfs

/-!
# Strings that are quoted and read

A character in quotes is scanned as one piece, whatever text follows, and the
piece is joined as that character, whatever pieces follow.  Control characters
without a letter of their own are written as units; none of these is a surrogate,
so a quoted string is always read back.
-/

namespace Leadership.Json

open Leadership.Text

/-! ## Pieces -/

namespace Piece

/-- A piece that is scanned from a spelling and leaves the text behind it to be scanned. -/
def SpelledBy (spelling : List Char) (piece : Piece) : Prop :=
  ∀ rest, scanPieces (spelling ++ rest) =
    (scanPieces rest).map fun scanned => (piece :: scanned.1, scanned.2)

/-- A piece that is joined as a character and leaves the pieces behind it to be joined. -/
def StandsFor (character : Char) (piece : Piece) : Prop :=
  ∀ pieces, joinPieces (piece :: pieces) = (joinPieces pieces).map (character :: ·)

theorem standsFor_char (character : Char) : (char character).StandsFor character := by
  intro pieces
  rw [joinPieces]

theorem standsFor_unit {character : Char} (low : character.toNat < 0x20) :
    (unit character.toNat).StandsFor character := by
  intro pieces
  have noSurrogate : character.toNat < 0xD800 := Nat.lt_trans low (by decide)
  rw [joinPieces.eq_def]
  simp [noSurrogate]

theorem spelledBy_letter {letter value : Char} (noUnit : letter ≠ 'u')
    (escapes : escaped? letter = some value) :
    (char value).SpelledBy ['\\', letter] := by
  intro rest
  show scanPieces ('\\' :: letter :: rest) = _
  rw [scanPieces, escapes]
  · cases scanPieces rest <;> rfl
  · simp [noUnit]

theorem spelledBy_digits {digits : List Char} {number : Nat} (four : digits.length = 4)
    (reads : hexNumber? digits = some number) :
    (unit number).SpelledBy ('\\' :: 'u' :: digits) := by
  intro rest
  match digits with
  | [first, second, third, fourth] =>
      show scanPieces ('\\' :: 'u' :: first :: second :: third :: fourth :: rest) = _
      rw [scanPieces, reads]
      cases scanPieces rest <;> rfl

theorem spelledBy_itself {character : Char} (noQuote : character ≠ '"')
    (noEscape : character ≠ '\\') (high : ¬character.toNat < 0x20) :
    (char character).SpelledBy [character] := by
  intro rest
  show scanPieces (character :: rest) = _
  rw [scanPieces, if_neg high]
  · cases scanPieces rest <;> rfl
  all_goals simp [noQuote, noEscape]

end Piece

/-! ## One character -/

theorem hexNumber?_paddedDigits {number : Nat} (low : number < 0x20) :
    (paddedDigits 16 4 number).length = 4 ∧
      hexNumber? (paddedDigits 16 4 number) = some number := by
  revert number
  decide +kernel

/-- The three ways in which characters are written: by a letter, by a number, or as they are. -/
theorem escape_cases (character : Char) :
    (∃ letter, letter ≠ 'u' ∧ escaped? letter = some character ∧
        escape character = ['\\', letter]) ∨
      (character.toNat < 0x20 ∧
        escape character = '\\' :: 'u' :: paddedDigits 16 4 character.toNat) ∨
      (character ≠ '"' ∧ character ≠ '\\' ∧ ¬character.toNat < 0x20 ∧
        escape character = [character]) := by
  by_cases lettered : character ∈ ['"', '\\', '\x08', '\x0c', '\n', '\r', '\t']
  · left
    simp only [List.mem_cons, List.not_mem_nil, or_false] at lettered
    rcases lettered with rfl | rfl | rfl | rfl | rfl | rfl | rfl
    · exact ⟨'"', by decide, rfl, rfl⟩
    · exact ⟨'\\', by decide, rfl, rfl⟩
    · exact ⟨'b', by decide, rfl, rfl⟩
    · exact ⟨'f', by decide, rfl, rfl⟩
    · exact ⟨'n', by decide, rfl, rfl⟩
    · exact ⟨'r', by decide, rfl, rfl⟩
    · exact ⟨'t', by decide, rfl, rfl⟩
  · right
    simp only [List.mem_cons, List.not_mem_nil, or_false, not_or] at lettered
    rcases lettered with ⟨noQuote, noEscape, noBackspace, noFeed, noLineEnd, noReturn, noTab⟩
    simp only [escape, noQuote, noEscape, noBackspace, noFeed, noLineEnd, noReturn, noTab, if_false]
    by_cases low : character.toNat < 0x20
    · exact .inl ⟨low, if_pos low⟩
    · exact .inr ⟨noQuote, noEscape, low, if_neg low⟩

/-- What is written for a character is scanned as a piece that stands for it. -/
theorem exists_piece (character : Char) :
    ∃ piece : Piece, piece.SpelledBy (escape character) ∧ piece.StandsFor character := by
  rcases escape_cases character with ⟨letter, noUnit, escapes, written⟩ | ⟨low, written⟩ |
    ⟨noQuote, noEscape, high, written⟩
  · rw [written]
    exact ⟨_, Piece.spelledBy_letter noUnit escapes, Piece.standsFor_char character⟩
  · rw [written]
    rcases hexNumber?_paddedDigits low with ⟨four, reads⟩
    exact ⟨_, Piece.spelledBy_digits four reads, Piece.standsFor_unit low⟩
  · rw [written]
    exact ⟨_, Piece.spelledBy_itself noQuote noEscape high, Piece.standsFor_char character⟩

/-! ## Strings -/

/-- A string up to its closing quote is scanned into pieces that are joined as the string. -/
theorem scanPieces_escaped (characters rest : List Char) :
    ∃ pieces, scanPieces (characters.flatMap escape ++ '"' :: rest) = some (pieces, rest) ∧
      joinPieces pieces = some characters := by
  induction characters with
  | nil => exact ⟨[], by rw [List.flatMap_nil, List.nil_append, scanPieces], rfl⟩
  | cons character characters induction =>
      rcases induction with ⟨pieces, scanned, joined⟩
      rcases exists_piece character with ⟨piece, spelled, stands⟩
      refine ⟨piece :: pieces, ?_, ?_⟩
      · rw [List.flatMap_cons, List.append_assoc, spelled, scanned]
        rfl
      · rw [stands, joined]
        rfl

theorem readString_escaped (content : String) (rest : List Char) :
    readString (content.toList.flatMap escape ++ '"' :: rest) = (.text content, some rest) := by
  rcases scanPieces_escaped content.toList rest with ⟨pieces, scanned, joined⟩
  rw [readString, scanned]
  simp only [joined, String.ofList_toList]

end Leadership.Json
