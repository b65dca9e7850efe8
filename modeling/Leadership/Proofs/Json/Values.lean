import Leadership.Config.Exchange
import Leadership.Proofs.Json.Strings
import Mathlib.Data.List.Forall2

/-!
# Values that are written and read

A value is read back from its compact text, as a tree with the same contents, in
front of any text with which a number could not go on.  The lemmas build such
values from their parts: a number that fits a word, a string, a sequence and a map
of values that are read back.  Depth is counted from outside, so each container
needs one level more than what it holds.
-/

namespace Leadership.Json

open Leadership.Text

/-! ## Numbers -/

/-- Whether the text of a number could go on with a character. -/
def extendsNumber (character : Char) : Bool :=
  isDigitOf 10 character || character = '.' || character = 'e' || character = 'E'

theorem Stops.of_extendsNumber {rest : List Char} (stops : Stops extendsNumber rest) :
    Stops (isDigitOf 10) rest ∧ ∀ character ∈ rest.head?,
      character ≠ '.' ∧ character ≠ 'e' ∧ character ≠ 'E' := by
  constructor
  · intro character isHead
    have none := stops character isHead
    simp only [extendsNumber, Bool.or_eq_false_iff] at none
    exact none.1.1.1
  · intro character isHead
    have none := stops character isHead
    simp only [extendsNumber, Bool.or_eq_false_iff, decide_eq_false_iff_not] at none
    exact ⟨none.1.1.2, none.1.2, none.2⟩

theorem Numeral.scanFraction_of_stops {rest : List Char} (stops : Stops extendsNumber rest) :
    scanFraction rest = some ([], rest) := by
  cases rest with
  | nil => rfl
  | cons character rest =>
      have others := (Stops.of_extendsNumber stops).2 character rfl
      rw [scanFraction]
      simp [others]

theorem Numeral.scanExponent_of_stops {rest : List Char} (stops : Stops extendsNumber rest) :
    scanExponent rest = some (none, rest) := by
  cases rest with
  | nil => rfl
  | cons character rest =>
      have others := (Stops.of_extendsNumber stops).2 character rfl
      rw [scanExponent]
      all_goals simp [others]

/-- The digits of a number have no superfluous zero in front, and nothing behind them is its own. -/
theorem Numeral.scan_digitsOf (number : Nat) {rest : List Char}
    (stops : Stops extendsNumber rest) :
    scan (digitsOf 10 number ++ rest) = some (⟨false, digitsOf 10 number, [], none⟩, rest) := by
  have span := spanDigits_digitsOf isBase_ten number (Stops.of_extendsNumber stops).1
  have unsigned : scanUnsigned false (digitsOf 10 number ++ rest) =
      some (⟨false, digitsOf 10 number, [], none⟩, rest) := by
    rw [scanUnsigned, span]
    split
    · next empty => exact absurd (congrArg Prod.fst empty) (digitsOf_ne_nil 10 number)
    · next zeros =>
        have several : digitsOf 10 number = '0' :: _ := congrArg Prod.fst zeros
        have leading : (digitsOf 10 number).head? ≠ some '0' :=
          head?_digitsOf_ne_zero_of_several isBase_ten (by simp [several])
        exact absurd (by rw [several, List.head?_cons]) leading
    · next same =>
        cases same
        simp [scanFraction_of_stops stops, scanExponent_of_stops stops]
  rw [scan]
  · exact unsigned
  · intro others same
    rcases exists_digitsOf_cons isBase_ten number with ⟨digit, digits, shape, isDigit⟩
    rw [shape, List.cons_append, List.cons.injEq] at same
    exact ne_of_isDigitOf isDigit (by decide) same.1

theorem readNumber_digitsOf {number : Nat} (small : number < UInt64.size) {rest : List Char}
    (stops : Stops extendsNumber rest) :
    readNumber (digitsOf 10 number ++ rest) = (.nat number, some rest) := by
  rw [readNumber, Numeral.scan_digitsOf number stops]
  simp [Numeral.value?, ofDigits_digitsOf isBase_ten, small, Tree.nat]

/-! ## Values that are read back -/

/-- A value whose text is read as a tree wherever there is room for containers of some depth. -/
def ReadBack (depth : Nat) (value : Value) (tree : Tree Malformed) : Prop :=
  ∀ room rest, depth ≤ room → Stops extendsNumber rest →
    readValue (room + 1) (write value ++ rest) = (tree, some rest)

variable {depth : Nat}

theorem skipBlank_of_not_isBlank {character : Char} (noBlank : isBlank character = false)
    (rest : List Char) :
    skipBlank (character :: rest) = character :: rest := by
  simp [skipBlank, noBlank]

theorem readValue_digit {digit : Char} (isDigit : isDigitOf 10 digit = true) (room : Nat)
    (rest : List Char) :
    readValue (room + 1) (digit :: rest) = readNumber (digit :: rest) := by
  have noMark (mark : Char) (noDigit : isDigitOf 10 mark = false) : digit ≠ mark :=
    ne_of_isDigitOf isDigit noDigit
  have noBlank : isBlank digit = false := by
    simp only [isBlank, Bool.or_eq_false_iff, decide_eq_false_iff_not]
    exact ⟨⟨⟨noMark _ (by decide), noMark _ (by decide)⟩, noMark _ (by decide)⟩,
      noMark _ (by decide)⟩
  rw [readValue, skipBlank_of_not_isBlank noBlank]
  split
  · next same => exact absurd (List.cons.inj same).1 (noMark _ (by decide))
  · next same => exact absurd (List.cons.inj same).1 (noMark _ (by decide))
  · next same => exact absurd (List.cons.inj same).1 (noMark _ (by decide))
  · next same => exact absurd (List.cons.inj same).1 (noMark _ (by decide))
  · next same => exact absurd (List.cons.inj same).1 (noMark _ (by decide))
  · next same => exact absurd (List.cons.inj same).1 (noMark _ (by decide))
  · rfl

theorem readBack_nat {number : Nat} (small : number < UInt64.size) :
    ReadBack depth (.nat number) (.nat number) := by
  intro room rest _ stops
  have reads := readNumber_digitsOf small stops
  show readValue (room + 1) (digitsOf 10 number ++ rest) = _
  rcases exists_digitsOf_cons isBase_ten number with ⟨digit, digits, shape, isDigit⟩
  rw [shape, List.cons_append] at reads ⊢
  rw [readValue_digit isDigit, reads]

theorem readBack_text (content : String) :
    ReadBack depth (.text content) (.text content) := by
  intro room rest _ _
  have written : write (.text content) ++ rest =
      '"' :: (content.toList.flatMap escape ++ '"' :: rest) := by
    simp [write, quote]
  rw [written, readValue, skipBlank_of_not_isBlank (by decide)]
  exact readString_escaped content rest

theorem readBack_null : ReadBack depth .null .null := by
  intro room rest _ _
  rfl

theorem readBack_bool (value : Bool) : ReadBack depth (.bool value) (.bool value) := by
  intro room rest _ _
  cases value <;> rfl

/-! ## Sequences -/

theorem stops_mark {mark : Char} (ends : mark ∈ [',', ']', '}']) (rest : List Char) :
    Stops extendsNumber (mark :: rest) := by
  apply stops_cons.mpr
  simp only [List.mem_cons, List.not_mem_nil, or_false] at ends
  rcases ends with rfl | rfl | rfl <;> rfl

theorem length_le_length_writeItems (values : List Value) :
    values.length ≤ (writeItems values).length := by
  induction values with
  | nil => exact Nat.zero_le _
  | cons value values induction =>
      cases values with
      | nil => simp [writeItems]
      | cons next values =>
          rw [writeItems, List.length_append, List.length_cons, List.length_cons]
          · exact Nat.le_add_left_of_le (Nat.succ_le_succ induction)
          · simp

section Items

variable {readItem : List Char → Reading} {text rest : List Char} {item : Tree Malformed}

theorem readItems_last (reads : readItem text = (item, some (']' :: rest))) (fuel : Nat) :
    readItems readItem (fuel + 1) text = ([item], none, some rest) := by
  rw [readItems, reads]
  rfl

theorem readItems_next (reads : readItem text = (item, some (',' :: rest))) (fuel : Nat) :
    readItems readItem (fuel + 1) text = .cons item (readItems readItem fuel rest) := by
  rw [readItems, reads]
  rfl

end Items

/-- The items of a sequence are read one after the other.  The induction is on the items. -/
theorem readItems_writeItems {values : List Value} {trees : List (Tree Malformed)}
    (all : List.Forall₂ (ReadBack depth) values trees) (inhabited : values ≠ []) {room fuel : Nat}
    (enough : depth ≤ room) (fueled : values.length ≤ fuel) (rest : List Char) :
    readItems (readValue (room + 1)) fuel (writeItems values ++ rest) =
      (trees, none, some rest) := by
  induction all generalizing fuel with
  | nil => contradiction
  | @cons value tree values trees reads others induction =>
      rcases Nat.exists_eq_add_of_lt fueled with ⟨further, rfl⟩
      cases others with
      | nil =>
          have written : writeItems [value] ++ rest = write value ++ ']' :: rest := by
            simp [writeItems]
          rw [written]
          exact readItems_last (reads room _ enough (stops_mark (by decide) rest)) _
      | @cons next following values trees readsNext others =>
          have behind := induction (List.cons_ne_nil _ _)
            (Nat.le_add_right (next :: values).length further)
          have written : writeItems (value :: next :: values) ++ rest =
              write value ++ ',' :: (writeItems (next :: values) ++ rest) := by
            simp [writeItems]
          rw [written, readItems_next (reads room _ enough (stops_mark (by decide) _)), behind]
          rfl

/-- No text that is read back starts like the end of a sequence. -/
theorem ReadBack.skipBlank_ne {value : Value} {tree : Tree Malformed}
    (reads : ReadBack depth value tree) {rest : List Char} (stops : Stops extendsNumber rest)
    (others : List Char) :
    skipBlank (write value ++ rest) ≠ ']' :: others := by
  intro ends
  have read := reads depth rest (Nat.le_refl depth) stops
  have broken : readNumber (']' :: others) = .broken := rfl
  rw [readValue, ends] at read
  rw [Reading.broken] at broken
  exact absurd (broken.symm.trans read) (by simp)

theorem writeItems_cons (value : Value) (values : List Value) :
    ∃ mark behind, mark ∈ [',', ']', '}'] ∧
      writeItems (value :: values) = write value ++ mark :: behind := by
  cases values with
  | nil => exact ⟨']', [], by decide, by rw [writeItems]⟩
  | cons next values =>
      refine ⟨',', writeItems (next :: values), by decide, ?_⟩
      rw [writeItems]
      simp

theorem readSequence_writeItems {values : List Value} {trees : List (Tree Malformed)}
    (all : List.Forall₂ (ReadBack depth) values trees) {room : Nat} (enough : depth ≤ room)
    (rest : List Char) :
    readSequence (readValue (room + 1)) (writeItems values ++ rest) = (.list trees, some rest) := by
  cases all with
  | nil => rfl
  | @cons value tree values trees reads others =>
      have fueled :
          (value :: values).length ≤ (writeItems (value :: values) ++ rest).length + 1 := by
        rw [List.length_append]
        exact Nat.le_add_right_of_le
          (Nat.le_add_right_of_le (length_le_length_writeItems (value :: values)))
      have items := readItems_writeItems (.cons reads others) (List.cons_ne_nil _ _) enough fueled
        rest
      have inhabited :
          ∀ behind, skipBlank (writeItems (value :: values) ++ rest) ≠ ']' :: behind := by
        rcases writeItems_cons value values with ⟨mark, following, ends, written⟩
        rw [written, List.append_assoc]
        exact reads.skipBlank_ne (stops_mark ends _)
      rw [readSequence]
      split
      · next ends => exact absurd ends (inhabited _)
      · rw [items]
        rfl

/-- A sequence is read back if all of its items are. -/
theorem readBack_list {values : List Value} {trees : List (Tree Malformed)}
    (all : List.Forall₂ (ReadBack depth) values trees) :
    ReadBack (depth + 1) (.list values) (.list trees) := by
  rintro (_ | room) rest enough _
  · exact absurd enough (Nat.not_succ_le_zero depth)
  · have written : write (.list values) ++ rest = '[' :: (writeItems values ++ rest) := by
      simp [write, Tree.list]
    rw [written, readValue, skipBlank_of_not_isBlank (by decide)]
    exact readSequence_writeItems all (Nat.le_of_succ_le_succ enough) rest

/-! ## Maps -/

/-- Entries with the same key, of which one holds a value and the other what it is read as. -/
def EntryReadBack (depth : Nat) (entry : String × Value) (read : String × Tree Malformed) : Prop :=
  entry.1 = read.1 ∧ ReadBack depth entry.2 read.2

section Entries

variable {readItem : List Char → Reading} {text rest : List Char} {item : Tree Malformed}

/-- An entry is read from its key on; what is behind its value decides how the map goes on. -/
theorem readEntries_entry (key : String) (reads : readItem text = (item, some rest)) (fuel : Nat) :
    readEntries readItem (fuel + 1) (quote key ++ ':' :: text) =
      .cons (key, item) (match some (skipBlank rest) with
        | some (',' :: rest) => readEntries readItem fuel rest
        | some ('}' :: rest) => ([], none, some rest)
        | _ => .broken) := by
  rcases scanPieces_escaped key.toList (':' :: text) with ⟨pieces, scanned, joined⟩
  have written : quote key ++ ':' :: text =
      '"' :: (key.toList.flatMap escape ++ '"' :: ':' :: text) := by
    simp [quote]
  have behind : readBehindColon readItem (':' :: text) = (item, some rest) := by
    rw [readBehindColon, skipBlank_of_not_isBlank (by decide)]
    exact reads
  rw [written, readEntries, skipBlank_of_not_isBlank (by decide)]
  simp only [scanned, joined]
  rw [behind, String.ofList_toList]
  rfl

theorem readEntries_last (key : String) (reads : readItem text = (item, some ('}' :: rest)))
    (fuel : Nat) :
    readEntries readItem (fuel + 1) (quote key ++ ':' :: text) = ([(key, item)], none, some rest) :=
  readEntries_entry key reads fuel

theorem readEntries_next (key : String) (reads : readItem text = (item, some (',' :: rest)))
    (fuel : Nat) :
    readEntries readItem (fuel + 1) (quote key ++ ':' :: text) =
      .cons (key, item) (readEntries readItem fuel rest) :=
  readEntries_entry key reads fuel

end Entries

theorem length_le_length_writeEntries (entries : List (String × Value)) :
    entries.length ≤ (writeEntries entries).length := by
  induction entries with
  | nil => exact Nat.zero_le _
  | cons entry entries induction =>
      rcases entry with ⟨key, value⟩
      cases entries with
      | nil =>
          simp only [writeEntries, List.length_append, List.length_cons, List.length_nil]
          omega
      | cons next entries =>
          rw [writeEntries, List.length_append, List.length_cons, List.length_cons]
          · exact Nat.le_add_left_of_le (Nat.succ_le_succ induction)
          · simp

/-- The text of a map has a character for each entry at least. -/
theorem le_length_write_record {entries : List (String × Value)} (few : depth ≤ entries.length) :
    depth ≤ (write (.record entries)).length := by
  rw [Tree.record, write, List.length_cons]
  exact Nat.le_succ_of_le (Nat.le_trans few (length_le_length_writeEntries entries))

/-- The entries of a map are read one after the other.  The induction is on the entries. -/
theorem readEntries_writeEntries {entries : List (String × Value)}
    {trees : List (String × Tree Malformed)}
    (all : List.Forall₂ (EntryReadBack depth) entries trees) (inhabited : entries ≠ [])
    {room fuel : Nat} (enough : depth ≤ room) (fueled : entries.length ≤ fuel)
    (rest : List Char) :
    readEntries (readValue (room + 1)) fuel (writeEntries entries ++ rest) =
      (trees, none, some rest) := by
  induction all generalizing fuel with
  | nil => contradiction
  | @cons entry tree entries trees reads others induction =>
      rcases entry with ⟨key, value⟩
      rcases tree with ⟨sameKey, tree⟩
      rcases reads with ⟨rfl, reads⟩
      rcases Nat.exists_eq_add_of_lt fueled with ⟨further, rfl⟩
      cases others with
      | nil =>
          have written : writeEntries [(key, value)] ++ rest =
              quote key ++ ':' :: (write value ++ '}' :: rest) := by
            simp [writeEntries]
          rw [written]
          exact readEntries_last key (reads room _ enough (stops_mark (by decide) rest)) _
      | @cons next following entries trees readsNext others =>
          have behind := induction (List.cons_ne_nil _ _)
            (Nat.le_add_right (next :: entries).length further)
          have written : writeEntries ((key, value) :: next :: entries) ++ rest =
              quote key ++ ':' ::
                (write value ++ ',' :: (writeEntries (next :: entries) ++ rest)) := by
            simp [writeEntries]
          rw [written, readEntries_next key (reads room _ enough (stops_mark (by decide) _)),
            behind]
          rfl

theorem head?_writeEntries (entry : String × Value) (entries : List (String × Value)) :
    ∃ behind, writeEntries (entry :: entries) = '"' :: behind := by
  cases entries with
  | nil => exact ⟨_, by simp [writeEntries, quote]; rfl⟩
  | cons next entries => exact ⟨_, by simp [writeEntries, quote]; rfl⟩

theorem readMap_writeEntries {entries : List (String × Value)}
    {trees : List (String × Tree Malformed)}
    (all : List.Forall₂ (EntryReadBack depth) entries trees) {room : Nat} (enough : depth ≤ room)
    (rest : List Char) :
    readMap (readValue (room + 1)) (writeEntries entries ++ rest) =
      (.record trees, some rest) := by
  cases all with
  | nil => rfl
  | @cons entry tree entries trees reads others =>
      have fueled : (entry :: entries).length ≤
          (writeEntries (entry :: entries) ++ rest).length + 1 := by
        rw [List.length_append]
        exact Nat.le_add_right_of_le
          (Nat.le_add_right_of_le (length_le_length_writeEntries (entry :: entries)))
      have contents := readEntries_writeEntries (.cons reads others) (List.cons_ne_nil _ _) enough
        fueled rest
      rcases head?_writeEntries entry entries with ⟨behind, written⟩
      rw [readMap]
      split
      · next ends =>
          rw [written, List.cons_append, skipBlank_of_not_isBlank (by decide)] at ends
          exact absurd (List.cons.inj ends).1 (by decide)
      · rw [contents]
        rfl

/-- A map is read back, with its entries in their order, if all of their values are. -/
theorem readBack_record {entries : List (String × Value)} {trees : List (String × Tree Malformed)}
    (all : List.Forall₂ (EntryReadBack depth) entries trees) :
    ReadBack (depth + 1) (.record entries) (.record trees) := by
  rintro (_ | room) rest enough _
  · exact absurd enough (Nat.not_succ_le_zero depth)
  · have written : write (.record entries) ++ rest = '{' :: (writeEntries entries ++ rest) := by
      simp [write, Tree.record]
    rw [written, readValue, skipBlank_of_not_isBlank (by decide)]
    exact readMap_writeEntries all (Nat.le_of_succ_le_succ enough) rest

/-! ## Whole texts -/

/-- The outline of the text of a value that is read back holds all of it, and nothing else. -/
theorem ReadBack.outline {value : Value} {tree : Tree Malformed}
    (reads : ReadBack depth value tree) (short : depth ≤ (write value).length) :
    Outline.ofText value.toText = ⟨tree, true⟩ := by
  have whole := reads (write value).length [] short stops_nil
  rw [List.append_nil] at whole
  simp only [Outline.ofText, Value.toText, String.toList_ofList, whole]
  rfl

theorem ReadBack.readText {α : Type} {value : Value} {tree : Tree Malformed}
    (reads : ReadBack depth value tree) (short : depth ≤ (write value).length)
    (read : Tree Malformed → Decoded α) :
    Json.readText read value.toText = read tree := by
  rw [Json.readText, reads.outline short]
  cases read tree <;> rfl

end Leadership.Json
