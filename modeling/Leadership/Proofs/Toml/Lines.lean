import Leadership.Proofs.Toml.Items

/-!
# Lines that are written and read

A document that is written line by line is read back as the statements of its
lines, if every key is bare and every number fits.  Each line is read off and
leaves the text behind it untouched, so the document follows by induction on its
lines.
-/

namespace Leadership.Toml

open Leadership.Text

/-! ## Keys -/

/-- A key that needs no quotes. -/
def IsBareKey (key : String) : Prop :=
  key.toList ≠ [] ∧ key.toList.all isBare = true

instance (key : String) : Decidable (IsBareKey key) :=
  inferInstanceAs (Decidable (_ ∧ _))

theorem IsBareKey.isBare_of_mem {key : String} (bare : IsBareKey key) :
    ∀ character ∈ key.toList, isBare character = true :=
  List.all_eq_true.mp bare.2

theorem ne_of_isBare {character mark : Char} (bare : isBare character = true)
    (notBare : isBare mark = false) :
    character ≠ mark := by
  rintro rfl
  rw [notBare] at bare
  exact absurd bare (by decide)

theorem isBlank_of_isBare {character : Char} (bare : isBare character = true) :
    isBlank character = false := by
  have noSpace := ne_of_isBare bare (by decide : isBare ' ' = false)
  have noTab := ne_of_isBare bare (by decide : isBare '\t' = false)
  simp [isBlank, noSpace, noTab]

theorem IsBareKey.exists_cons {key : String} (bare : IsBareKey key) :
    ∃ first others, key.toList = first :: others ∧ isBare first = true := by
  cases shape : key.toList with
  | nil => exact absurd shape bare.1
  | cons first others =>
      exact ⟨first, others, rfl, bare.isBare_of_mem first (shape ▸ List.mem_cons_self)⟩

theorem skipBlank_of_not_isBlank {first : Char} {rest : List Char} (other : isBlank first = false) :
    skipBlank (first :: rest) = first :: rest := by
  rw [skipBlank, List.dropWhile_cons_of_neg (by simp [other])]

theorem IsBareKey.skipBlank_append {key : String} (bare : IsBareKey key) (rest : List Char) :
    skipBlank (key.toList ++ rest) = key.toList ++ rest := by
  rcases bare.exists_cons with ⟨first, others, shape, isFirst⟩
  rw [shape, List.cons_append]
  exact skipBlank_of_not_isBlank (isBlank_of_isBare isFirst)

theorem readPart_append {key : String} (bare : IsBareKey key) {rest : List Char}
    (stops : Stops isBare rest) :
    readPart (key.toList ++ rest) = some (key, rest) := by
  have front := stops.takeWhile_append bare.isBare_of_mem
  have behind := stops.dropWhile_append bare.isBare_of_mem
  rcases bare.exists_cons with ⟨first, others, shape, isFirst⟩
  have noBasic := ne_of_isBare isFirst (by decide : isBare '"' = false)
  have noLiteral := ne_of_isBare isFirst (by decide : isBare '\'' = false)
  have name : String.ofList (first :: others) = key := by
    rw [← shape, String.ofList_toList]
  rw [shape, List.cons_append] at front behind ⊢
  simp [readPart, noBasic, noLiteral, front, behind, name]

theorem readParts_dotted {path : List String} {key : String} {limit : Nat}
    (fits : path.length < limit) (bare : ∀ part ∈ path ++ [key], IsBareKey part)
    {rest : List Char} (stops : Stops isBare rest) (noDot : (skipBlank rest).head? ≠ some '.') :
    readParts limit (Line.dotted path key ++ rest) = some (path ++ [key], skipBlank rest) := by
  induction path generalizing limit with
  | nil =>
      cases limit with
      | zero => exact absurd fits (Nat.not_lt_zero _)
      | succ limit =>
          have bareKey := bare key (by simp)
          simp only [readParts, Line.dotted, List.flatMap_nil, List.nil_append,
            bareKey.skipBlank_append, readPart_append bareKey stops, Option.bind_eq_bind,
            Option.bind_some]
          split
          · next shape =>
              rw [shape] at noDot
              exact absurd rfl noDot
          · rfl
  | cons part path induction =>
      cases limit with
      | zero => exact absurd fits (Nat.not_lt_zero _)
      | succ limit =>
          have barePart := bare part (by simp)
          have others := induction (Nat.lt_of_succ_lt_succ fits)
            (fun other member => bare other (List.mem_cons_of_mem _ member))
          have text : Line.dotted (part :: path) key ++ rest =
              part.toList ++ '.' :: (Line.dotted path key ++ rest) := by
            simp [Line.dotted]
          have dot : skipBlank ('.' :: (Line.dotted path key ++ rest)) =
              '.' :: (Line.dotted path key ++ rest) :=
            skipBlank_of_not_isBlank (by decide)
          have stopsAtDot : Stops isBare ('.' :: (Line.dotted path key ++ rest)) :=
            stops_cons.mpr (by decide)
          simp [readParts, text, barePart.skipBlank_append, readPart_append barePart stopsAtDot,
            dot, others]

theorem readKey_dotted (path : List String) {key : String} (fits : path.length < nestingLimit)
    (bare : ∀ part ∈ path ++ [key], IsBareKey part) {rest : List Char}
    (stops : Stops isBare rest) (noDot : (skipBlank rest).head? ≠ some '.') :
    readKey (Line.dotted path key ++ rest) = some ((path, key), skipBlank rest) := by
  simp [readKey, readParts_dotted fits bare stops noDot]

/-! ## Single lines -/

/-- Whether a line has a text that is read back. -/
def Line.Readable : Line → Prop
  | .pair key item => IsBareKey key ∧ item.Readable
  | .table path key => path.length < nestingLimit ∧ ∀ part ∈ path ++ [key], IsBareKey part
  | .tables key => IsBareKey key

theorem Line.Readable.pair {key : String} {item : Item} (bare : IsBareKey key)
    (readable : item.Readable) :
    (Line.pair key item).Readable :=
  And.intro bare readable

theorem endLine?_lineEnd (rest : List Char) : endLine? ('\n' :: rest) = some rest :=
  rfl

theorem Item.skipBlank_write (item : Item) (rest : List Char) :
    skipBlank (item.write ++ rest) = item.write ++ rest := by
  cases item with
  | number value =>
      rw [Item.write]
      cases shape : digitsOf 10 value with
      | nil => exact absurd shape (digitsOf_ne_nil 10 value)
      | cons digit digits =>
          have isDigit : isDigitOf 10 digit = true :=
            isDigitOf_of_mem_digitsOf isBase_ten (shape ▸ List.mem_cons_self)
          have noSpace := ne_of_isDigitOf isDigit (by decide : isDigitOf 10 ' ' = false)
          have noTab := ne_of_isDigitOf isDigit (by decide : isDigitOf 10 '\t' = false)
          exact skipBlank_of_not_isBlank (by simp [isBlank, noSpace, noTab])
  | text value =>
      rw [Item.write]
      have quote := head?_writeString value.toList rest
      cases shape : writeString value.toList ++ rest with
      | nil =>
          rw [shape] at quote
          exact absurd quote (by simp)
      | cons first others =>
          rw [shape] at quote
          apply skipBlank_of_not_isBlank
          rcases quote with basic | literal
          · rw [Option.some.inj basic]
            rfl
          · rw [Option.some.inj literal]
            rfl
  | noItems => rfl

theorem readPairLine_write {key : String} {item : Item}
    (readable : (Line.pair key item).Readable) (rest : List Char) :
    readPairLine ((Line.pair key item).write ++ rest) =
      some ((Line.pair key item).statement, rest) := by
  have text : (Line.pair key item).write ++ rest =
      Line.dotted [] key ++ ' ' :: '=' :: ' ' :: (item.write ++ '\n' :: rest) := by
    simp [Line.write, Line.dotted]
  have stops : Stops isBare (' ' :: '=' :: ' ' :: (item.write ++ '\n' :: rest)) :=
    stops_cons.mpr (by decide)
  have blank (text : List Char) : skipBlank (' ' :: text) = skipBlank text := rfl
  have equals (text : List Char) : skipBlank ('=' :: text) = '=' :: text := rfl
  have reads := readKey_dotted [] (by decide) (by simpa using readable.1) stops
    (by simp [blank, equals])
  have value : readValue nestingLimit (item.write ++ '\n' :: rest) =
      some (item.toTree, '\n' :: rest) :=
    readValue_write readable.2 78 rest
  rw [text]
  simp [readPairLine, readPair, reads, blank, equals, Item.skipBlank_write, value,
    endLine?_lineEnd, Line.statement]

theorem exists_cons_dotted {path : List String} {key : String}
    (bare : ∀ part ∈ path ++ [key], IsBareKey part) :
    ∃ first others, Line.dotted path key = first :: others ∧ isBare first = true := by
  cases path with
  | nil =>
      have bareKey := bare key (by simp)
      simpa [Line.dotted] using bareKey.exists_cons
  | cons part path =>
      rcases (bare part (by simp)).exists_cons with ⟨first, others, shape, isFirst⟩
      refine ⟨first, others ++ '.' :: Line.dotted path key, ?_, isFirst⟩
      simp [Line.dotted, shape]

theorem readHeadingLine_table {path : List String} {key : String}
    (readable : (Line.table path key).Readable) (rest : List Char) :
    readHeadingLine (Line.dotted path key ++ ']' :: '\n' :: rest) =
      some ((Line.table path key).statement, rest) := by
  have bracket : skipBlank (']' :: '\n' :: rest) = ']' :: '\n' :: rest := rfl
  have stops : Stops isBare (']' :: '\n' :: rest) := stops_cons.mpr (by decide)
  have reads := readKey_dotted path readable.1 readable.2 stops (by simp [bracket])
  rcases exists_cons_dotted readable.2 with ⟨first, others, shape, isFirst⟩
  have noBracket := ne_of_isBare isFirst (by decide : isBare '[' = false)
  rw [shape, List.cons_append] at reads ⊢
  simp [readHeadingLine, noBracket, reads, bracket, endLine?_lineEnd, Line.statement]

theorem readHeadingLine_tables {key : String} (bare : IsBareKey key) (rest : List Char) :
    readHeadingLine ('[' :: (key.toList ++ ']' :: ']' :: '\n' :: rest)) =
      some ((Line.tables key).statement, rest) := by
  have bracket : skipBlank (']' :: ']' :: '\n' :: rest) = ']' :: ']' :: '\n' :: rest := rfl
  have stops : Stops isBare (']' :: ']' :: '\n' :: rest) := stops_cons.mpr (by decide)
  have reads : readKey (key.toList ++ ']' :: ']' :: '\n' :: rest) =
      some (([], key), ']' :: ']' :: '\n' :: rest) :=
    readKey_dotted [] (by decide) (by simpa using bare) stops (by simp [bracket])
  simp [readHeadingLine, reads, endLine?_lineEnd, Line.statement]

/-! ## All lines -/

/-- How many steps it takes to read a line; the blank line in front of a heading is one. -/
def Line.steps : Line → Nat
  | .pair _ _ => 1
  | .table _ _ => 2
  | .tables _ => 2

theorem Line.steps_le_length (line : Line) : line.steps ≤ line.write.length := by
  cases line with
  | pair key item =>
      simp only [steps, write, List.length_append, List.length_cons]
      omega
  | table path key => simp [steps, write]
  | tables key => simp [steps, write]

theorem readStatements_lineEnd (fuel : Nat) (rest : List Char) :
    readStatements (fuel + 1) ('\n' :: rest) = readStatements fuel rest := by
  have blank : skipBlank ('\n' :: rest) = '\n' :: rest := rfl
  simp [readStatements, blank]

/-- What is read behind a statement goes on with it. -/
theorem map_cons_eq_bind (statement : Statement) (behind : Option (List Statement)) :
    behind.map (statement :: ·) = behind.bind fun statements => some (statement :: statements) :=
  Option.map_eq_bind

theorem readStatements_heading {text rest : List Char} {statement : Statement}
    (reads : readHeadingLine text = some (statement, rest)) (fuel : Nat) :
    readStatements (fuel + 1) ('[' :: text) =
      (readStatements fuel rest).map (statement :: ·) := by
  have blank : skipBlank ('[' :: text) = '[' :: text := rfl
  rw [map_cons_eq_bind]
  simp [readStatements, blank, reads]

theorem readStatements_pair {first : Char} {text rest : List Char} {statement : Statement}
    (isFirst : isBare first = true)
    (reads : readPairLine (first :: text) = some (statement, rest)) (fuel : Nat) :
    readStatements (fuel + 1) (first :: text) =
      (readStatements fuel rest).map (statement :: ·) := by
  have blank : skipBlank (first :: text) = first :: text :=
    skipBlank_of_not_isBlank (isBlank_of_isBare isFirst)
  have noLineEnd := ne_of_isBare isFirst (by decide : isBare '\n' = false)
  have noComment := ne_of_isBare isFirst (by decide : isBare '#' = false)
  have noBracket := ne_of_isBare isFirst (by decide : isBare '[' = false)
  rw [map_cons_eq_bind]
  simp [readStatements, blank, noLineEnd, noComment, noBracket, reads]

/-- A line is read off, and the text behind it is left. -/
theorem readStatements_line {line : Line} (readable : line.Readable) (fuel : Nat)
    (rest : List Char) :
    readStatements (fuel + line.steps) (line.write ++ rest) =
      (readStatements fuel rest).map (line.statement :: ·) := by
  cases line with
  | pair key item =>
      rcases readable.1.exists_cons with ⟨first, others, shape, isFirst⟩
      have reads := readPairLine_write readable rest
      have text : (Line.pair key item).write ++ rest =
          first :: (others ++ [' ', '=', ' '] ++ item.write ++ ['\n'] ++ rest) := by
        simp [Line.write, shape]
      rw [text] at reads ⊢
      exact readStatements_pair isFirst reads fuel
  | table path key =>
      have text : (Line.table path key).write ++ rest =
          '\n' :: '[' :: (Line.dotted path key ++ ']' :: '\n' :: rest) := by
        simp [Line.write]
      rw [text, Line.steps, readStatements_lineEnd]
      exact readStatements_heading (readHeadingLine_table readable rest) fuel
  | tables key =>
      have text : (Line.tables key).write ++ rest =
          '\n' :: '[' :: '[' :: (key.toList ++ ']' :: ']' :: '\n' :: rest) := by
        simp [Line.write]
      rw [text, Line.steps, readStatements_lineEnd]
      exact readStatements_heading (readHeadingLine_tables readable rest) fuel

theorem readStatements_lines {lines : List Line} (readable : ∀ line ∈ lines, line.Readable)
    {fuel : Nat} (enough : (lines.flatMap Line.write).length < fuel) :
    readStatements fuel (lines.flatMap Line.write) = some (lines.map Line.statement) := by
  induction lines generalizing fuel with
  | nil =>
      cases fuel with
      | zero => exact absurd enough (Nat.not_lt_zero _)
      | succ fuel => rfl
  | cons line lines induction =>
      rw [List.flatMap_cons, List.length_append] at enough
      have steps := line.steps_le_length
      have others := induction (fun other member => readable other (List.mem_cons_of_mem _ member))
        (by omega : (lines.flatMap Line.write).length < fuel - line.steps)
      have split : fuel = fuel - line.steps + line.steps := by
        omega
      rw [split, List.flatMap_cons, readStatements_line (readable line List.mem_cons_self), others]
      rfl

/-! ## The whole text -/

theorem unifyLines_of_noReturn {text : List Char} (noReturn : '\r' ∉ text) :
    unifyLines text = text := by
  induction text with
  | nil => rfl
  | cons first text induction =>
      have other : first ≠ '\r' := fun isReturn => noReturn (by simp [isReturn])
      have others := induction (fun member => noReturn (List.mem_cons_of_mem _ member))
      simp [unifyLines, other, others]

theorem IsBareKey.noReturn {key : String} (bare : IsBareKey key) : '\r' ∉ key.toList := by
  intro member
  exact absurd (bare.isBare_of_mem '\r' member) (by decide)

theorem Item.write_noReturn (item : Item) : '\r' ∉ item.write := by
  cases item with
  | number value =>
      intro member
      have isDigit : isDigitOf 10 '\r' = true :=
        isDigitOf_of_mem_digitsOf isBase_ten member
      exact absurd isDigit (by decide)
  | text value => exact writeString_noReturn value.toList
  | noItems => decide

theorem dotted_noReturn {path : List String} {key : String}
    (bare : ∀ part ∈ path ++ [key], IsBareKey part) :
    '\r' ∉ Line.dotted path key := by
  intro isReturn
  rcases List.mem_append.mp isReturn with inPath | inKey
  · rcases List.mem_flatMap.mp inPath with ⟨part, member, inPart⟩
    rcases List.mem_append.mp inPart with inName | isDot
    · exact (bare part (List.mem_append_left _ member)).noReturn inName
    · exact absurd isDot (by decide)
  · exact (bare key (by simp)).noReturn inKey

theorem Line.write_noReturn {line : Line} (readable : line.Readable) : '\r' ∉ line.write := by
  cases line with
  | pair key item => simp [write, readable.1.noReturn, item.write_noReturn]
  | table path key => simp [write, dotted_noReturn readable.2]
  | tables key =>
      have bare : IsBareKey key := readable
      simp [write, bare.noReturn]

theorem dropMark_of_head?_ne {text : List Char} (other : text.head? ≠ some '\ufeff') :
    dropMark text = text := by
  unfold dropMark
  split
  · exact absurd rfl other
  · rfl

theorem head?_lines_ne {lines : List Line} (readable : ∀ line ∈ lines, line.Readable) :
    (lines.flatMap Line.write).head? ≠ some '\ufeff' := by
  cases lines with
  | nil => simp
  | cons line lines =>
      have first := readable line List.mem_cons_self
      cases line with
      | pair key item =>
          rcases first.1.exists_cons with ⟨character, others, shape, isFirst⟩
          have noMark := ne_of_isBare isFirst (by decide : isBare '\ufeff' = false)
          simp [Line.write, shape, noMark]
      | table path key => simp [Line.write]
      | tables key => simp [Line.write]

/-- Lines with bare keys and fitting numbers are read back from their text. -/
theorem statements?_writeLines {lines : List Line} (readable : ∀ line ∈ lines, line.Readable) :
    statements? (writeLines lines) = some (lines.map Line.statement) := by
  have noReturn : '\r' ∉ lines.flatMap Line.write := by
    rw [List.mem_flatMap]
    rintro ⟨line, member, isReturn⟩
    exact Line.write_noReturn (readable line member) isReturn
  rw [statements?, writeLines, String.toList_ofList, dropMark_of_head?_ne (head?_lines_ne readable),
    unifyLines_of_noReturn noReturn]
  exact readStatements_lines readable (Nat.lt_succ_self _)

end Leadership.Toml
