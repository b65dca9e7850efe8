import Leadership.Proofs.Toml.Strings
import Leadership.Toml.Layout

/-!
# Items that are written and read

A number, a string and the empty array are read back in front of a line end.
The reader asks for a string, a date and a time before it asks for a number.  A
run of digits is none of these: no quote is in front of it, and neither a dash
nor a colon can follow a part of it.
-/

namespace Leadership.Toml

open Leadership.Text

/-! ## Runs of digits -/

/-- A text that a run of digits does not go on with. -/
structure EndsRun (base : Nat) (text : List Char) : Prop where
  stops : Stops (isDigitOf base) text
  noUnderscore : text.head? ≠ some '_'

theorem endsRun_lineEnd (rest : List Char) : EndsRun 10 ('\n' :: rest) where
  stops := stops_cons.mpr (by decide)
  noUnderscore := by simp

theorem readRun_entered {base : Nat} {digits rest : List Char}
    (all : ∀ digit ∈ digits, isDigitOf base digit = true) (ends : EndsRun base rest) :
    readRun base true (digits ++ rest) = some (digits, rest) := by
  induction digits with
  | nil =>
      cases rest with
      | nil => rfl
      | cons character rest =>
          have noDigit := stops_cons.mp ends.stops
          have other : character ≠ '_' := by simpa using ends.noUnderscore
          simp [readRun, noDigit, other]
  | cons digit digits induction =>
      have others := induction (fun other member => all other (List.mem_cons_of_mem _ member))
      simp [readRun, all digit List.mem_cons_self, others]

theorem readRun_digitsOf (number : Nat) {rest : List Char} (ends : EndsRun 10 rest) :
    readRun 10 false (digitsOf 10 number ++ rest) = some (digitsOf 10 number, rest) := by
  have all : ∀ digit ∈ digitsOf 10 number, isDigitOf 10 digit = true :=
    fun _ => isDigitOf_of_mem_digitsOf isBase_ten
  cases shape : digitsOf 10 number with
  | nil => exact absurd shape (digitsOf_ne_nil 10 number)
  | cons digit digits =>
      rw [shape] at all
      have others := readRun_entered
        (fun other member => all other (List.mem_cons_of_mem _ member)) ends
      simp [readRun, all digit List.mem_cons_self, others]

/-! ## No moment -/

theorem readOneOf_drop {digits rest marks : List Char} {count : Nat}
    (all : ∀ digit ∈ digits, isDigitOf 10 digit = true) (inside : count ≤ digits.length)
    (noDigits : marks.any (isDigitOf 10) = false) (noLineEnd : '\n' ∉ marks) :
    readOneOf marks ((digits ++ '\n' :: rest).drop count) = none := by
  rw [List.drop_append_of_le_length inside]
  cases left : digits.drop count with
  | nil => simp [readOneOf, noLineEnd]
  | cons digit others =>
      have isDigit := all digit (List.mem_of_mem_drop (left ▸ List.mem_cons_self))
      have noMark : digit ∉ marks :=
        fun member => List.any_eq_false.mp noDigits digit member isDigit
      simp [readOneOf, noMark]

/-- A fixed number of digits is read from a run of digits only, not beyond it. -/
theorem readFixed_eq_some {digits rest behind : List Char} {count least greatest number : Nat}
    (reads : readFixed count least greatest (digits ++ '\n' :: rest) = some (number, behind)) :
    count ≤ digits.length ∧ behind = (digits ++ '\n' :: rest).drop count := by
  simp only [readFixed] at reads
  split at reads
  · next fits =>
      simp only [Bool.and_eq_true, decide_eq_true_eq, List.all_eq_true] at fits
      refine ⟨?_, (congrArg Prod.snd (Option.some.inj reads)).symm⟩
      -- Were the run shorter, the line end would be among the digits.
      apply Nat.le_of_not_lt
      intro short
      have member : '\n' ∈ (digits ++ '\n' :: rest).take count := by
        rw [List.take_append, List.mem_append]
        right
        cases gap : count - digits.length with
        | zero => exact absurd (Nat.sub_eq_zero_iff_le.mp gap) (Nat.not_le_of_lt short)
        | succ further => exact List.mem_cons_self
      exact absurd (fits.1.1.2 '\n' member) (by decide)
  · exact absurd reads (by simp)

theorem readOneOf_behind_readFixed {digits rest behind marks : List Char}
    {count least greatest number : Nat}
    (all : ∀ digit ∈ digits, isDigitOf 10 digit = true)
    (noDigits : marks.any (isDigitOf 10) = false) (noLineEnd : '\n' ∉ marks)
    (reads : readFixed count least greatest (digits ++ '\n' :: rest) = some (number, behind)) :
    readOneOf marks behind = none := by
  rcases readFixed_eq_some reads with ⟨inside, rfl⟩
  exact readOneOf_drop all inside noDigits noLineEnd

theorem readMoment_digits {digits : List Char}
    (all : ∀ digit ∈ digits, isDigitOf 10 digit = true) (rest : List Char) :
    readMoment (digits ++ '\n' :: rest) = none := by
  have noDate : readDate (digits ++ '\n' :: rest) = none := by
    cases year : readFixed 4 0 9999 (digits ++ '\n' :: rest) with
    | none => simp [readDate, year]
    | some read =>
        have noDash : readOneOf ['-'] read.2 = none :=
          readOneOf_behind_readFixed all (by decide) (by decide) year
        simp [readDate, year, noDash]
  have noTime : readTime (digits ++ '\n' :: rest) = none := by
    cases hour : readFixed 2 0 23 (digits ++ '\n' :: rest) with
    | none => simp [readTime, readClock, hour]
    | some read =>
        have noColon : readOneOf [':'] read.2 = none :=
          readOneOf_behind_readFixed all (by decide) (by decide) hour
        simp [readTime, readClock, hour, noColon]
  simp [readMoment, noDate, noTime]

/-! ## Numbers -/

theorem second_ne {digit first mark : Char} {digits rest others : List Char}
    (all : ∀ other ∈ digits, isDigitOf 10 other = true) (noDigit : isDigitOf 10 mark = false)
    (noLineEnd : mark ≠ '\n') :
    digit :: (digits ++ '\n' :: rest) ≠ first :: mark :: others := by
  intro same
  rw [List.cons.injEq] at same
  cases digits with
  | nil => exact noLineEnd (List.cons.inj same.2).1.symm
  | cons second digits =>
      have isDigit := all second List.mem_cons_self
      exact ne_of_isDigitOf isDigit noDigit (List.cons.inj same.2).1

theorem readSign_digit {digit : Char} (isDigit : isDigitOf 10 digit = true) (rest : List Char) :
    readSign (digit :: rest) = (none, digit :: rest) := by
  have noMinus := ne_of_isDigitOf isDigit (by decide : isDigitOf 10 '-' = false)
  have noPlus := ne_of_isDigitOf isDigit (by decide : isDigitOf 10 '+' = false)
  simp [readSign, noMinus, noPlus]

theorem readSpecial_digit {digit : Char} (isDigit : isDigitOf 10 digit = true)
    (rest : List Char) :
    readSpecial false (digit :: rest) = none := by
  have noInfinity := ne_of_isDigitOf isDigit (by decide : isDigitOf 10 'i' = false)
  have noNaN := ne_of_isDigitOf isDigit (by decide : isDigitOf 10 'n' = false)
  simp [readSpecial, noInfinity, noNaN]

theorem readNumber_digits {digit : Char} {digits : List Char}
    (isDigit : isDigitOf 10 digit = true) (all : ∀ other ∈ digits, isDigitOf 10 other = true)
    (rest : List Char) :
    readNumber (digit :: (digits ++ '\n' :: rest)) =
      readDecimal false (digit :: (digits ++ '\n' :: rest)) := by
  unfold readNumber
  split
  · next shape => exact absurd shape (second_ne all (by decide) (by decide))
  · next shape => exact absurd shape (second_ne all (by decide) (by decide))
  · next shape => exact absurd shape (second_ne all (by decide) (by decide))
  · simp [readSign_digit isDigit, readSpecial_digit isDigit]

theorem readDecimal_digitsOf {number : Nat} (small : number ≤ greatestInt) (rest : List Char) :
    readDecimal false (digitsOf 10 number ++ '\n' :: rest) =
      some (.nat number, '\n' :: rest) := by
  have lone : ¬((digitsOf 10 number).head? = some '0' ∧ 1 < (digitsOf 10 number).length) :=
    fun both => head?_digitsOf_ne_zero_of_several isBase_ten both.2 both.1
  have noFraction : readFraction ('\n' :: rest) = some (none, '\n' :: rest) := rfl
  have noExponent : readExponent ('\n' :: rest) = some (none, '\n' :: rest) := rfl
  simp [readDecimal, readRun_digitsOf number (endsRun_lineEnd rest), lone, noFraction, noExponent,
    ofDigits_digitsOf isBase_ten, small, Tree.nat]

/-! ## Items -/

/-- Whether an item has a text that is read back. -/
def Item.Readable : Item → Prop
  | .number value => value ≤ greatestInt
  | .text _ => True
  | .noItems => True

theorem readString_of_head?_ne {text : List Char} (noBasic : text.head? ≠ some '"')
    (noLiteral : text.head? ≠ some '\'') :
    readString text = none := by
  unfold readString
  split
  · exact absurd rfl noBasic
  · exact absurd rfl noBasic
  · exact absurd rfl noLiteral
  · exact absurd rfl noLiteral
  · rfl

theorem head?_writeString (content rest : List Char) :
    (writeString content ++ rest).head? = some '"' ∨
      (writeString content ++ rest).head? = some '\'' := by
  rw [writeString]
  cases formOf content with
  | basic => exact .inl rfl
  | literal => exact .inr rfl
  | longBasic => exact .inl rfl
  | longLiteral => exact .inr rfl

/-- What starts with no letter of a truth value and with no bracket is no other value. -/
theorem readValue_scalar {first : Char} {rest : List Char}
    (other : first ∉ ['[', '{', 't', 'f']) (depth : Nat) :
    readValue depth (first :: rest) =
      match readString (first :: rest) with
      | some (content, rest) => some (.text (String.ofList content), rest)
      | none => readMoment (first :: rest) <|> readNumber (first :: rest) := by
  simp only [List.mem_cons, List.not_mem_nil, or_false, not_or] at other
  rcases other with ⟨noBracket, noBrace, noTrue, noFalse⟩
  have scalar : readValue depth (first :: rest) = readScalar (first :: rest) := by
    cases depth with
    | zero => simp [readValue]
    | succ depth => simp [readValue, noBracket, noBrace]
  rw [scalar]
  cases reads : readString (first :: rest) with
  | none => simp [readScalar, noTrue, noFalse, reads]
  | some read => simp [readScalar, noTrue, noFalse, reads]

/-- An item is read back in front of a line end. -/
theorem readValue_write {item : Item} (readable : item.Readable) (depth : Nat)
    (rest : List Char) :
    readValue (depth + 1) (item.write ++ '\n' :: rest) = some (item.toTree, '\n' :: rest) := by
  cases item with
  | number value =>
      have all : ∀ digit ∈ digitsOf 10 value, isDigitOf 10 digit = true :=
        fun _ => isDigitOf_of_mem_digitsOf isBase_ten
      have decimal := readDecimal_digitsOf readable rest
      have noMoment := readMoment_digits all rest
      rw [Item.write]
      cases shape : digitsOf 10 value with
      | nil => exact absurd shape (digitsOf_ne_nil 10 value)
      | cons digit digits =>
          rw [shape] at all decimal noMoment
          have isDigit := all digit List.mem_cons_self
          have others := fun other member => all other (List.mem_cons_of_mem digit member)
          have noMark (mark : Char) (noDigit : isDigitOf 10 mark = false) : digit ≠ mark :=
            ne_of_isDigitOf isDigit noDigit
          have noString : readString (digit :: (digits ++ '\n' :: rest)) = none := by
            apply readString_of_head?_ne
            · simpa using noMark '"' (by decide)
            · simpa using noMark '\'' (by decide)
          rw [List.cons_append] at decimal noMoment ⊢
          rw [readValue_scalar _ (depth + 1), noString]
          · rw [noMoment, readNumber_digits isDigit others, decimal]
            rfl
          · have noDigits : ['[', '{', 't', 'f'].any (isDigitOf 10) = false := by
              decide
            exact fun member => List.any_eq_false.mp noDigits digit member isDigit
  | text value =>
      have reads := readString_writeString value.toList rest
      rw [Item.write]
      cases shape : writeString value.toList ++ '\n' :: rest with
      | nil => exact absurd shape (by simp)
      | cons first others =>
          have quote := head?_writeString value.toList ('\n' :: rest)
          rw [shape] at reads quote
          rw [readValue_scalar _ (depth + 1), reads]
          · simp only [String.ofList_toList, Item.toTree]
          · rcases quote with basic | literal
            · rw [Option.some.inj basic]
              decide
            · rw [Option.some.inj literal]
              decide
  | noItems =>
      simp [Item.write, readValue, readArray, skipSpace, isBlank, Item.toTree]

end Leadership.Toml
