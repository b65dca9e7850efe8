import Leadership.Proofs.Toml.Escapes

/-!
# Strings that are written and read

Whatever form is chosen for a string, it is read back in front of a line end, and
what is written holds no carriage return.  The ends of long strings depend on
runs of quotes: up to two may stand in front of the closing three, and a run of
three never stands inside.
-/

namespace Leadership.Toml

/-! ## Runs of quotes -/

/-- A text with at most so many of a character in front. -/
def FewInFront (quote : Char) (bound : Nat) (text : List Char) : Prop :=
  ∃ count ≤ bound, ∃ behind,
    text = List.replicate count quote ++ behind ∧ behind.head? ≠ some quote

theorem closeLong_of_other {quote : Char} {text : List Char} {place : Nat} (early : place < 3)
    (other : text[place]? ≠ some quote) :
    closeLong quote text = none := by
  unfold closeLong
  split
  · next first second third rest =>
      rw [if_neg]
      rintro ⟨rfl, rfl, rfl⟩
      match place with
      | 0 | 1 | 2 => exact other rfl
  · rfl

/-- Three to five quotes end a long string, and what is before the last three is content. -/
theorem closeLong_of_end {quote : Char} {count : Nat} (atMost : count ≤ 2) {rest : List Char}
    (behind : rest.head? ≠ some quote) :
    closeLong quote (List.replicate count quote ++ quote :: quote :: quote :: rest) =
      some (List.replicate count quote, rest) := by
  match count with
  | 0 =>
      cases rest with
      | nil => simp [closeLong]
      | cons fourth rest =>
          have other : fourth ≠ quote := fun same => behind (by rw [same, List.head?_cons])
          cases rest with
          | nil => simp [closeLong, other]
          | cons fifth rest => simp [closeLong, other]
  | 1 =>
      cases rest with
      | nil => simp [closeLong]
      | cons fifth rest =>
          have other : fifth ≠ quote := fun same => behind (by rw [same, List.head?_cons])
          simp [closeLong, List.replicate, other]
  | 2 => simp [closeLong, List.replicate]

theorem closeLong_of_fewInFront {quote : Char} {bound : Nat} {text rest : List Char}
    (few : FewInFront quote bound text) (two : bound ≤ 2) (behind : rest.head? ≠ some quote) :
    closeLong quote (text ++ quote :: quote :: quote :: rest) = none ∨
      ∃ count, text = List.replicate count quote ∧
        closeLong quote (text ++ quote :: quote :: quote :: rest) = some (text, rest) := by
  rcases few with ⟨count, atMost, others, rfl, other⟩
  cases others with
  | nil =>
      right
      refine ⟨count, List.append_nil _, ?_⟩
      rw [List.append_nil]
      exact closeLong_of_end (Nat.le_trans atMost two) behind
  | cons character others =>
      left
      apply closeLong_of_other (Nat.lt_succ_of_le (Nat.le_trans atMost two))
      simpa [List.getElem?_append_right] using other

/-! ## Long basic strings -/

theorem readLongBasic_of_closes {text : List Char} {ended : List Char × List Char}
    (closes : closeLong '"' text = some ended) :
    readLongBasic .plain text = some ended := by
  cases text with
  | nil => exact absurd closes (by simp [closeLong])
  | cons character rest => simp [readLongBasic, closes]

theorem readLongBasic_of_open {character : Char} {rest : List Char}
    (opens : closeLong '"' (character :: rest) = none) (noEscape : character ≠ '\\')
    (stands : isPlain character = true ∨ character = '\n') :
    readLongBasic .plain (character :: rest) = emit character (readLongBasic .plain rest) := by
  simp [readLongBasic, opens, noEscape, stands]

theorem closeLong_cons_of_ne {quote character : Char} (other : character ≠ quote)
    (rest : List Char) :
    closeLong quote (character :: rest) = none := by
  apply closeLong_of_other (Nat.zero_lt_succ 2)
  simpa using other

theorem readLongBasic_shows {written : List Char} {character : Char}
    (shows : Shows written character) (rest : List Char) :
    readLongBasic .plain (written ++ rest) = emit character (readLongBasic .plain rest) := by
  cases shows with
  | itself plain noQuote noEscape =>
      exact readLongBasic_of_open (closeLong_cons_of_ne noQuote _) noEscape (.inl plain)
  | @escaped spelling _ spells =>
      have opens := closeLong_cons_of_ne (by decide : '\\' ≠ '"') (spelling ++ rest)
      have step : readLongBasic .plain ('\\' :: (spelling ++ rest)) =
          readLongBasic (.within .opened) (spelling ++ rest) := by
        simp [readLongBasic, opens]
      rw [List.cons_append, step]
      exact readLongBasic_spelled spells rest

/-- A character other than a quote in a long basic string. -/
def writeLongCharacter (character : Char) : List Char :=
  if character = '\n' then ['\n'] else escapeCharacter character

theorem readLongBasic_writeLongCharacter {character : Char} (noQuote : character ≠ '"')
    (rest : List Char) :
    readLongBasic .plain (writeLongCharacter character ++ rest) =
      emit character (readLongBasic .plain rest) := by
  rw [writeLongCharacter]
  split
  · next lineEnd =>
      rw [lineEnd]
      exact readLongBasic_of_open (closeLong_cons_of_ne (by decide) _) (by decide) (.inr rfl)
  · exact readLongBasic_shows (shows_escapeCharacter noQuote) rest

theorem head?_writeLongCharacter_ne {character : Char} (noQuote : character ≠ '"')
    (rest : List Char) :
    (writeLongCharacter character ++ rest).head? ≠ some '"' := by
  rw [writeLongCharacter]
  split
  · simp
  · exact (shows_escapeCharacter noQuote).head?_ne (.inl rfl) rest

theorem writeLongCharacter_ne_nil {character : Char} (noQuote : character ≠ '"') :
    writeLongCharacter character ≠ [] := by
  rw [writeLongCharacter]
  split
  · exact List.cons_ne_nil _ _
  · exact (shows_escapeCharacter noQuote).ne_nil

theorem writeLongCharacter_noReturn {character : Char} (noQuote : character ≠ '"') :
    '\r' ∉ writeLongCharacter character := by
  rw [writeLongCharacter]
  split
  · decide
  · exact (shows_escapeCharacter noQuote).not_mem

theorem writeLongBasic_cons_of_ne {character : Char} (noQuote : character ≠ '"') (quotes : Nat)
    (content : List Char) :
    writeLongBasic quotes (character :: content) =
      writeLongCharacter character ++ writeLongBasic 0 content := by
  rw [writeLongBasic, writeLongCharacter, if_neg noQuote]
  split
  · rfl
  · rfl

/-- With so many quotes in front, a long basic string goes on with no more than makes two. -/
theorem fewInFront_writeLongBasic {quotes : Nat} (atMost : quotes ≤ 2) (content : List Char) :
    FewInFront '"' (2 - quotes) (writeLongBasic quotes content) := by
  induction content generalizing quotes with
  | nil => exact ⟨0, by omega, [], rfl, by simp⟩
  | cons character content induction =>
      by_cases isQuote : character = '"'
      · by_cases full : quotes = 2
        · refine ⟨0, by omega, '\\' :: '"' :: writeLongBasic 0 content, ?_, by simp⟩
          simp [writeLongBasic, isQuote, full]
        · rcases induction (by omega : quotes + 1 ≤ 2) with ⟨count, bound, behind, shape, other⟩
          refine ⟨count + 1, by omega, behind, ?_, other⟩
          simp [writeLongBasic, isQuote, full, shape, List.replicate_succ]
      · refine ⟨0, by omega, _, writeLongBasic_cons_of_ne isQuote quotes content, ?_⟩
        exact head?_writeLongCharacter_ne isQuote _

theorem eq_of_writeLongBasic_eq_replicate {quotes count : Nat} {content : List Char}
    (shape : writeLongBasic quotes content = List.replicate count '"') :
    content = List.replicate count '"' := by
  induction content generalizing quotes count with
  | nil => exact shape
  | cons character content induction =>
      by_cases isQuote : character = '"'
      · by_cases full : quotes = 2
        · cases count with
          | zero => simp [writeLongBasic, isQuote, full] at shape
          | succ count => simp [writeLongBasic, isQuote, full, List.replicate_succ] at shape
        · cases count with
          | zero => simp [writeLongBasic, isQuote, full] at shape
          | succ count =>
              simp only [writeLongBasic, isQuote, full, if_true, if_false, List.replicate_succ,
                List.cons.injEq, true_and] at shape ⊢
              exact induction shape
      · rw [writeLongBasic_cons_of_ne isQuote] at shape
        cases count with
        | zero =>
            exact absurd (List.append_eq_nil_iff.mp shape).1 (writeLongCharacter_ne_nil isQuote)
        | succ count =>
            have head := head?_writeLongCharacter_ne isQuote (writeLongBasic 0 content)
            rw [shape] at head
            exact absurd rfl head

theorem readLongBasic_writeLongBasic {quotes : Nat} (atMost : quotes ≤ 2) (content : List Char)
    {rest : List Char} (behind : rest.head? ≠ some '"') :
    readLongBasic .plain (writeLongBasic quotes content ++ '"' :: '"' :: '"' :: rest) =
      some (content, rest) := by
  induction content generalizing quotes with
  | nil => exact readLongBasic_of_closes (closeLong_of_end (Nat.zero_le 2) behind)
  | cons character content induction =>
      have few := fewInFront_writeLongBasic atMost (character :: content)
      rcases closeLong_of_fewInFront few (Nat.sub_le 2 quotes) behind with
        opens | ⟨count, shape, closes⟩
      · by_cases isQuote : character = '"'
        · by_cases full : quotes = 2
          · have shape : writeLongBasic quotes (character :: content) =
                ['\\', '"'] ++ writeLongBasic 0 content := by
              simp [writeLongBasic, isQuote, full]
            rw [shape, List.append_assoc, readLongBasic_shows shows_quote,
              induction (Nat.zero_le 2), isQuote]
            rfl
          · have shape : writeLongBasic quotes (character :: content) =
                '"' :: writeLongBasic (quotes + 1) content := by
              simp [writeLongBasic, isQuote, full]
            rw [shape, List.cons_append] at opens ⊢
            rw [readLongBasic_of_open opens (by decide) (.inl (by decide)),
              induction (by omega), isQuote]
            rfl
        · rw [writeLongBasic_cons_of_ne isQuote, List.append_assoc,
            readLongBasic_writeLongCharacter isQuote, induction (Nat.zero_le 2)]
          rfl
      · rw [readLongBasic_of_closes closes, shape, ← eq_of_writeLongBasic_eq_replicate shape]

theorem head?_writeLongBasic_ne {content : List Char} (oneLine : '\n' ∉ content)
    {rest : List Char} (behind : rest.head? ≠ some '\n') :
    (writeLongBasic 0 content ++ rest).head? ≠ some '\n' := by
  cases content with
  | nil => exact behind
  | cons character content =>
      by_cases isQuote : character = '"'
      · simp [writeLongBasic, isQuote]
      · have noLineEnd : character ≠ '\n' := fun lineEnd => oneLine (by simp [lineEnd])
        rw [writeLongBasic_cons_of_ne isQuote, writeLongCharacter, if_neg noLineEnd,
          List.append_assoc]
        exact (shows_escapeCharacter isQuote).head?_ne (.inr rfl) _

theorem writeLongBasic_noReturn (quotes : Nat) (content : List Char) :
    '\r' ∉ writeLongBasic quotes content := by
  induction content generalizing quotes with
  | nil => exact List.not_mem_nil
  | cons character content induction =>
      by_cases isQuote : character = '"'
      · rw [writeLongBasic, if_pos isQuote]
        split
        · simp [induction 0]
        · simp [induction (quotes + 1)]
      · rw [writeLongBasic_cons_of_ne isQuote, List.mem_append, not_or]
        exact ⟨writeLongCharacter_noReturn isQuote, induction 0⟩

/-! ## Literal strings -/

theorem readLiteral_append {content : List Char}
    (plain : ∀ character ∈ content, isPlain character = true) (noQuote : '\'' ∉ content)
    (rest : List Char) :
    readLiteral (content ++ '\'' :: rest) = some (content, rest) := by
  induction content with
  | nil => simp [readLiteral]
  | cons character content induction =>
      have others := induction (fun other member => plain other (List.mem_cons_of_mem _ member))
        (fun member => noQuote (List.mem_cons_of_mem _ member))
      have isOther : character ≠ '\'' := fun same => noQuote (by simp [same])
      simp [readLiteral, isOther, plain character List.mem_cons_self, others, emit]

/-- The run in front, and what ends it. -/
theorem fewInFront_runs (wanted : Char) (content : List Char) :
    FewInFront wanted (runs wanted content).1 content := by
  induction content with
  | nil => exact ⟨0, Nat.le_refl 0, [], rfl, by simp⟩
  | cons character content induction =>
      by_cases isWanted : character = wanted
      · rcases induction with ⟨count, bound, behind, shape, other⟩
        refine ⟨count + 1, ?_, behind, ?_, other⟩
        · simp only [runs, isWanted, if_true]
          exact Nat.succ_le_succ bound
        · rw [List.replicate_succ, List.cons_append, ← shape, isWanted]
      · exact ⟨0, Nat.zero_le _, character :: content, rfl, by simpa using isWanted⟩

theorem runs_le_longestRun (wanted : Char) (content : List Char) :
    (runs wanted content).1 ≤ longestRun wanted content := by
  cases content with
  | nil => exact Nat.le_refl 0
  | cons character content => exact Nat.le_max_left _ _

theorem longestRun_le_cons (wanted character : Char) (content : List Char) :
    longestRun wanted content ≤ longestRun wanted (character :: content) :=
  Nat.le_max_right _ _

theorem not_mem_of_longestRun {wanted : Char} {content : List Char}
    (none : longestRun wanted content = 0) :
    wanted ∉ content := by
  induction content with
  | nil => exact List.not_mem_nil
  | cons character content induction =>
      have others := longestRun_le_cons wanted character content
      rw [none] at others
      have isOther : wanted ≠ character := by
        intro isWanted
        have leading := runs_le_longestRun wanted (character :: content)
        rw [none] at leading
        simp [runs, isWanted] at leading
      exact List.not_mem_cons_of_ne_of_not_mem isOther (induction (Nat.le_zero.mp others))

theorem readLongLiteral_of_closes {text : List Char} {ended : List Char × List Char}
    (closes : closeLong '\'' text = some ended) :
    readLongLiteral text = some ended := by
  cases text with
  | nil => exact absurd closes (by simp [closeLong])
  | cons character rest => simp [readLongLiteral, closes]

theorem readLongLiteral_append {content : List Char}
    (clean : ∀ character ∈ content, isControl character = false)
    (short : longestRun '\'' content ≤ 2) {rest : List Char}
    (behind : rest.head? ≠ some '\'') :
    readLongLiteral (content ++ '\'' :: '\'' :: '\'' :: rest) = some (content, rest) := by
  induction content with
  | nil => exact readLongLiteral_of_closes (closeLong_of_end (Nat.zero_le 2) behind)
  | cons character content induction =>
      have few := fewInFront_runs '\'' (character :: content)
      have two := Nat.le_trans (runs_le_longestRun '\'' (character :: content)) short
      rcases closeLong_of_fewInFront few two behind with opens | ⟨-, -, closes⟩
      · have others := induction
          (fun other member => clean other (List.mem_cons_of_mem _ member))
          (Nat.le_trans (longestRun_le_cons _ _ _) short)
        have stands := isControl_eq_false_iff.mp (clean character List.mem_cons_self)
        rw [List.cons_append] at opens ⊢
        simp [readLongLiteral, opens, stands, others, emit]
      · exact readLongLiteral_of_closes closes

/-! ## The chosen form -/

/-- Whether a form can show a string; the forms with escapes show every string. -/
def Form.Suits : Form → List Char → Prop
  | .basic, _ => True
  | .literal, content =>
      (∀ character ∈ content, isControl character = false) ∧ '\n' ∉ content ∧ '\'' ∉ content
  | .longBasic, _ => True
  | .longLiteral, content =>
      (∀ character ∈ content, isControl character = false) ∧ longestRun '\'' content ≤ 2

theorem suits_formOf (content : List Char) : (formOf content).Suits content := by
  have cleanOf (clean : (!content.any isControl) = true) :
      ∀ character ∈ content, isControl character = false := by
    simpa only [Bool.not_eq_true', List.any_eq_false, Bool.not_eq_true] using clean
  simp only [formOf]
  split
  · trivial
  · split
    · next literal =>
        simp only [Bool.and_eq_true, decide_eq_true_eq] at literal
        refine ⟨cleanOf literal.1.1, ?_, not_mem_of_longestRun literal.2⟩
        simpa using literal.1.2
    · split
      · trivial
      · split
        · next longLiteral =>
            simp only [Bool.and_eq_true, decide_eq_true_eq] at longLiteral
            exact ⟨cleanOf longLiteral.1, longLiteral.2⟩
        · split
          · trivial
          · trivial

/-! ## Strings in any form -/

theorem dropLineEnd_of_head?_ne {text : List Char} (other : text.head? ≠ some '\n') :
    dropLineEnd text = text := by
  unfold dropLineEnd
  split
  · exact absurd rfl other
  · rfl

/-- The line end that opens a long string is dropped, and no other one is. -/
theorem dropLineEnd_opening {content text : List Char}
    (oneLine : '\n' ∉ content → text.head? ≠ some '\n') :
    dropLineEnd ((if content.contains '\n' then ['\n'] else []) ++ text) = text := by
  split
  · rfl
  · next noLineEnd => exact dropLineEnd_of_head?_ne (oneLine (by simpa using noLineEnd))

/-- Quotes in front of a text that are neither followed by one nor closed at once by one. -/
theorem not_tripled {quote : Char} {content rest : List Char}
    (inside : content.head? ≠ some quote) (behind : rest.head? ≠ some quote) (text : List Char) :
    content ++ quote :: rest ≠ quote :: quote :: text := by
  intro tripled
  cases content with
  | nil =>
      rw [List.nil_append, List.cons.injEq] at tripled
      rw [tripled.2, List.head?_cons] at behind
      exact behind rfl
  | cons character content =>
      rw [List.cons_append, List.cons.injEq] at tripled
      rw [tripled.1, List.head?_cons] at inside
      exact inside rfl

/-- A string is read back from the form chosen for it, in front of a line end. -/
theorem readString_writeString (content rest : List Char) :
    readString (writeString content ++ '\n' :: rest) = some (content, '\n' :: rest) := by
  have suits := suits_formOf content
  have noBasicQuote : ('\n' :: rest).head? ≠ some '"' := by simp
  have noLiteralQuote : ('\n' :: rest).head? ≠ some '\'' := by simp
  cases form : formOf content with
  | basic =>
      have written : writeString content ++ '\n' :: rest =
          '"' :: (writeBasic content ++ '"' :: '\n' :: rest) := by
        simp [writeString, form]
      rw [written, readString]
      · exact readBasic_writeBasic content ('\n' :: rest)
      · exact not_tripled (head?_writeBasic_ne content) noBasicQuote
  | literal =>
      rw [form] at suits
      have written : writeString content ++ '\n' :: rest =
          '\'' :: (content ++ '\'' :: '\n' :: rest) := by
        simp [writeString, form]
      rw [written, readString]
      · apply readLiteral_append _ suits.2.2
        intro character member
        have noLineEnd : character ≠ '\n' := fun lineEnd => suits.2.1 (lineEnd ▸ member)
        exact (isControl_eq_false_iff.mp (suits.1 character member)).resolve_right noLineEnd
      · apply not_tripled _ noLiteralQuote
        exact fun isQuote => suits.2.2 (List.mem_of_head? isQuote)
  | longBasic =>
      have written : writeString content ++ '\n' :: rest =
          '"' :: '"' :: '"' :: ((if content.contains '\n' then ['\n'] else []) ++
            (writeLongBasic 0 content ++ '"' :: '"' :: '"' :: '\n' :: rest)) := by
        simp [writeString, form]
      rw [written, readString, dropLineEnd_opening]
      · exact readLongBasic_writeLongBasic (Nat.zero_le 2) content noBasicQuote
      · exact fun oneLine => head?_writeLongBasic_ne oneLine (by simp)
  | longLiteral =>
      rw [form] at suits
      have written : writeString content ++ '\n' :: rest =
          '\'' :: '\'' :: '\'' :: ((if content.contains '\n' then ['\n'] else []) ++
            (content ++ '\'' :: '\'' :: '\'' :: '\n' :: rest)) := by
        simp [writeString, form]
      rw [written, readString, dropLineEnd_opening]
      · exact readLongLiteral_append suits.1 suits.2 noLiteralQuote
      · intro oneLine
        cases content with
        | nil => simp
        | cons character content =>
            intro isLineEnd
            exact oneLine (by simp [Option.some.inj isLineEnd])

theorem writeString_noReturn (content : List Char) : '\r' ∉ writeString content := by
  have suits := suits_formOf content
  have notControl (clean : ∀ character ∈ content, isControl character = false) :
      '\r' ∉ content := by
    intro member
    exact absurd (clean _ member) (by decide)
  rw [writeString]
  cases form : formOf content with
  | basic => simp [writeBasic_noReturn]
  | literal =>
      rw [form] at suits
      simp [notControl suits.1]
  | longBasic => simp [writeLongBasic_noReturn]
  | longLiteral =>
      rw [form] at suits
      simp [notControl suits.1]

end Leadership.Toml
