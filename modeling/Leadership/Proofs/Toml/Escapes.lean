import Leadership.Proofs.Text.Digits
import Leadership.Toml.Quoted

/-!
# Characters that are written with escapes

The two readers of strings with escapes share the escapes themselves, so both
are reduced to what a single character is written as: itself, or a backslash
with a spelling that is one escape.  No spelling goes on with a blank or a line
end, which the reader of long strings would take away.
-/

namespace Leadership.Toml

open Leadership.Text

/-! ## One character in a string with escapes -/

/-- The character that some text behind a backslash stands for, if it is one escape. -/
def Escape.spelled : Escape → List Char → Option Char
  | _, [] => none
  | escape, character :: rest =>
      match escape.advance character with
      | none => none
      | some (.going next) => next.spelled rest
      | some (.done value) => if rest = [] then some value else none

/-- How a character may be written in a string with escapes, quotes apart. -/
inductive Shows : List Char → Char → Prop where
  | itself {character : Char} (plain : isPlain character = true)
      (noQuote : character ≠ '"') (noEscape : character ≠ '\\') :
      Shows [character] character
  | escaped {spelling : List Char} {character : Char}
      (spells : Escape.opened.spelled spelling = some character) :
      Shows ('\\' :: spelling) character

theorem Escape.spelled_cons {escape : Escape} {first value : Char} {rest : List Char}
    (spells : escape.spelled (first :: rest) = some value) :
    (∃ next, escape.advance first = some (.going next) ∧ next.spelled rest = some value) ∨
      escape.advance first = some (.done value) ∧ rest = [] := by
  rw [Escape.spelled] at spells
  cases advanced : escape.advance first with
  | none =>
      rw [advanced] at spells
      exact absurd spells (by simp)
  | some progress =>
      rw [advanced] at spells
      cases progress with
      | going next => exact .inl ⟨next, rfl, spells⟩
      | done found =>
          by_cases ended : rest = []
          · simp only [ended, if_true, Option.some.injEq] at spells
            exact .inr ⟨by rw [spells], ended⟩
          · simp only [ended, if_false] at spells
            exact absurd spells (by simp)

theorem Escape.advance_blank {escape : Escape} {character : Char}
    (blank : isBlank character = true ∨ character = '\n' ∨ character = '\r') :
    escape.advance character = none := by
  have among : character = ' ' ∨ character = '\t' ∨ character = '\n' ∨ character = '\r' := by
    simpa [isBlank, or_assoc] using blank
  rcases among with rfl | rfl | rfl | rfl <;> cases escape <;> rfl

theorem readBasic_spelled {escape : Escape} {spelling : List Char} {value : Char}
    (spells : escape.spelled spelling = some value) (rest : List Char) :
    readBasic (some escape) (spelling ++ rest) = emit value (readBasic none rest) := by
  induction spelling generalizing escape with
  | nil => exact absurd spells (by simp [Escape.spelled])
  | cons first spelling induction =>
      rcases Escape.spelled_cons spells with ⟨next, going, further⟩ | ⟨done, rfl⟩
      · rw [List.cons_append, readBasic, going]
        exact induction further
      · rw [List.cons_append, readBasic, done, List.nil_append]

theorem readLongBasic_spelled {escape : Escape} {spelling : List Char} {value : Char}
    (spells : escape.spelled spelling = some value) (rest : List Char) :
    readLongBasic (.within escape) (spelling ++ rest) =
      emit value (readLongBasic .plain rest) := by
  induction spelling generalizing escape with
  | nil => exact absurd spells (by simp [Escape.spelled])
  | cons first spelling induction =>
      -- A blank or a line end would be taken away, but no escape goes on with one.
      have advances : escape.advance first ≠ none := by
        rcases Escape.spelled_cons spells with ⟨next, going, -⟩ | ⟨done, -⟩
        · simp [going]
        · simp [done]
      have noBlank : isBlank first = false := by
        rw [← Bool.not_eq_true]
        exact fun blank => advances (Escape.advance_blank (.inl blank))
      have noLineEnd : first ≠ '\n' := fun lineEnd =>
        advances (Escape.advance_blank (.inr (.inl lineEnd)))
      rw [List.cons_append, readLongBasic]
      simp only [noBlank, noLineEnd, Bool.false_eq_true, and_false, if_false]
      rcases Escape.spelled_cons spells with ⟨next, going, further⟩ | ⟨done, rfl⟩
      · rw [going]
        exact induction further
      · rw [done, List.nil_append]

theorem not_mem_of_spelled {escape : Escape} {spelling : List Char} {value : Char}
    (spells : escape.spelled spelling = some value) :
    '\r' ∉ spelling := by
  induction spelling generalizing escape with
  | nil => exact List.not_mem_nil
  | cons first spelling induction =>
      have noReturn : '\r' ≠ first := by
        intro isReturn
        have stuck : escape.advance first = none :=
          Escape.advance_blank (.inr (.inr isReturn.symm))
        rcases Escape.spelled_cons spells with ⟨next, going, -⟩ | ⟨done, -⟩
        · exact absurd going (by simp [stuck])
        · exact absurd done (by simp [stuck])
      rcases Escape.spelled_cons spells with ⟨next, going, further⟩ | ⟨done, rfl⟩
      · exact List.not_mem_cons_of_ne_of_not_mem noReturn (induction further)
      · exact List.not_mem_cons_of_ne_of_not_mem noReturn List.not_mem_nil

theorem isPlain_return : isPlain '\r' = false := by
  decide

theorem Shows.not_mem {written : List Char} {character : Char} (shows : Shows written character) :
    '\r' ∉ written := by
  cases shows with
  | itself plain noQuote noEscape =>
      rw [List.mem_singleton]
      rintro rfl
      rw [isPlain_return] at plain
      exact absurd plain (by decide)
  | escaped spells =>
      exact List.not_mem_cons_of_ne_of_not_mem (by decide) (not_mem_of_spelled spells)

/-! ## Characters that are written with escapes -/

theorem isControl_eq_false_iff {character : Char} :
    isControl character = false ↔ isPlain character = true ∨ character = '\n' := by
  simp only [isControl, Bool.not_eq_false', Bool.or_eq_true, decide_eq_true_eq]

theorem toNat_lt_of_isControl {character : Char} (control : isControl character = true) :
    character.toNat < 128 := by
  simp only [isControl, isPlain, Bool.not_eq_true', Bool.or_eq_false_iff, Bool.and_eq_false_iff,
    decide_eq_false_iff_not] at control
  omega

theorem spelled_control {character : Char} (control : isControl character = true) :
    Escape.opened.spelled
        ('u' :: (paddedDigits 16 4 character.toNat).map Char.toUpper) = some character := by
  have all : ∀ number < 128,
      Escape.opened.spelled ('u' :: (paddedDigits 16 4 number).map Char.toUpper) =
        some (Char.ofNat number) := by
    decide +kernel
  rw [all character.toNat (toNat_lt_of_isControl control), Char.ofNat_toNat]

theorem shows_escapeCharacter {character : Char} (noQuote : character ≠ '"') :
    Shows (escapeCharacter character) character := by
  unfold escapeCharacter
  split
  · exact .escaped rfl
  · exact .escaped rfl
  · exact .escaped rfl
  · exact .escaped rfl
  · exact .escaped rfl
  · exact .escaped rfl
  · next noLineEnd _ _ noEscape =>
      by_cases control : isControl character = true
      · rw [if_pos control]
        exact .escaped (spelled_control control)
      · rw [if_neg control]
        have stands := isControl_eq_false_iff.mp (Bool.eq_false_iff.mpr control)
        exact .itself (stands.resolve_right noLineEnd) noQuote noEscape

theorem shows_quote : Shows ['\\', '"'] '"' :=
  .escaped rfl

theorem Shows.ne_nil {written : List Char} {character : Char} (shows : Shows written character) :
    written ≠ [] := by
  cases shows with
  | itself => exact List.cons_ne_nil _ _
  | escaped => exact List.cons_ne_nil _ _

theorem Shows.head?_ne {written : List Char} {character mark : Char}
    (shows : Shows written character) (special : mark = '"' ∨ mark = '\n') (rest : List Char) :
    (written ++ rest).head? ≠ some mark := by
  cases shows with
  | itself plain noQuote noEscape =>
      rw [List.cons_append, List.head?_cons]
      intro isMark
      rw [Option.some.inj isMark] at plain noQuote
      rcases special with rfl | rfl
      · exact noQuote rfl
      · exact absurd plain (by decide)
  | escaped spells =>
      rcases special with rfl | rfl
      · simp
      · simp

/-! ## Basic strings -/

theorem readBasic_shows {written : List Char} {character : Char} (shows : Shows written character)
    (rest : List Char) :
    readBasic none (written ++ rest) = emit character (readBasic none rest) := by
  cases shows with
  | itself plain noQuote noEscape => simp [readBasic, plain, noQuote, noEscape]
  | escaped spells =>
      rw [List.cons_append, readBasic]
      exact readBasic_spelled spells rest

/-- A character in a basic string, quotes included. -/
def writeBasicCharacter (character : Char) : List Char :=
  if character = '"' then ['\\', '"'] else escapeCharacter character

theorem writeBasic_eq (content : List Char) :
    writeBasic content = content.flatMap writeBasicCharacter :=
  rfl

theorem shows_writeBasicCharacter (character : Char) :
    Shows (writeBasicCharacter character) character := by
  rw [writeBasicCharacter]
  split
  · next isQuote =>
      rw [isQuote]
      exact shows_quote
  · next noQuote => exact shows_escapeCharacter noQuote

theorem readBasic_writeBasic (content rest : List Char) :
    readBasic none (writeBasic content ++ '"' :: rest) = some (content, rest) := by
  induction content with
  | nil => simp [writeBasic, readBasic]
  | cons character content induction =>
      rw [writeBasic_eq] at induction ⊢
      rw [List.flatMap_cons, List.append_assoc, readBasic_shows (shows_writeBasicCharacter _),
        induction]
      rfl

theorem head?_writeBasic_ne (content : List Char) :
    (writeBasic content).head? ≠ some '"' := by
  cases content with
  | nil => simp [writeBasic]
  | cons character content =>
      rw [writeBasic_eq, List.flatMap_cons]
      exact (shows_writeBasicCharacter character).head?_ne (.inl rfl) _

theorem writeBasic_noReturn (content : List Char) : '\r' ∉ writeBasic content := by
  rw [writeBasic_eq, List.mem_flatMap]
  rintro ⟨character, -, isReturn⟩
  exact (shows_writeBasicCharacter character).not_mem isReturn

end Leadership.Toml
