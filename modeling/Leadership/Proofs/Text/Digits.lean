import Leadership.Text.Digits

/-!
# Digits that are written and read

The digits of a number are digits of its base, stand for the number, and start
with a zero only if they are a lone zero.  A run of them ends where the text
behind it starts with something else.
-/

namespace Leadership.Text

/-- A base whose digits can be written and read. -/
structure IsBase (base : Nat) : Prop where
  proper : 1 < base
  atMost : base ≤ 16

theorem isBase_ten : IsBase 10 :=
  ⟨by decide, by decide⟩

theorem isBase_sixteen : IsBase 16 :=
  ⟨by decide, by decide⟩

/-! ## One digit -/

theorem digitValue_digitChar {value : Nat} (small : value < 16) :
    digitValue value.digitChar = value := by
  revert value
  decide

theorem isDigitOf_digitChar {base value : Nat} (small : value < base) (atMost : base ≤ 16) :
    isDigitOf base value.digitChar = true := by
  have valueOf := digitValue_digitChar (Nat.lt_of_lt_of_le small atMost)
  simpa only [isDigitOf, valueOf, decide_eq_true_eq] using small

theorem isDigitOf_mono {base wider : Nat} (atMost : base ≤ wider) {character : Char}
    (digit : isDigitOf base character = true) :
    isDigitOf wider character = true := by
  simp only [isDigitOf, decide_eq_true_eq] at digit ⊢
  exact Nat.lt_of_lt_of_le digit atMost

theorem ne_of_isDigitOf {base : Nat} {digit mark : Char} (isDigit : isDigitOf base digit = true)
    (noDigit : isDigitOf base mark = false) :
    digit ≠ mark := by
  rintro rfl
  rw [noDigit] at isDigit
  exact absurd isDigit (by decide)

/-! ## The digits of a number -/

theorem digitsOf_append {base : Nat} (isBase : IsBase base) {front last : Nat}
    (positive : 0 < front) (small : last < base) :
    digitsOf base (base * front + last) = digitsOf base front ++ [last.digitChar] := by
  have split := Nat.toDigits_append_toDigits isBase.proper positive small
  rw [Nat.toDigits_of_lt_base small] at split
  exact split.symm

theorem digitsOf_ne_nil (base number : Nat) : digitsOf base number ≠ [] :=
  Nat.toDigits_ne_nil

theorem length_digitsOf_le {base : Nat} (isBase : IsBase base) {number places : Nat}
    (positive : 0 < places) (small : number < Nat.pow base places) :
    (digitsOf base number).length ≤ places :=
  (Nat.length_toDigits_le_iff isBase.proper positive).mpr small

theorem isDigitOf_of_mem_digitsOf {base : Nat} (isBase : IsBase base) {number : Nat} {digit : Char}
    (member : digit ∈ digitsOf base number) :
    isDigitOf base digit = true := by
  induction number using Nat.base_induction base isBase.proper with
  | single number small =>
      rw [digitsOf, Nat.toDigits_of_lt_base small, List.mem_singleton] at member
      rw [member]
      exact isDigitOf_digitChar small isBase.atMost
  | digit front last small positive induction =>
      rw [digitsOf_append isBase positive small] at member
      rcases List.mem_append.mp member with inFront | isLast
      · exact induction inFront
      · rw [List.mem_singleton.mp isLast]
        exact isDigitOf_digitChar small isBase.atMost

/-- A number starts with a digit. -/
theorem exists_digitsOf_cons {base : Nat} (isBase : IsBase base) (number : Nat) :
    ∃ digit digits, digitsOf base number = digit :: digits ∧ isDigitOf base digit = true := by
  cases shape : digitsOf base number with
  | nil => exact absurd shape (digitsOf_ne_nil base number)
  | cons digit digits =>
      exact ⟨digit, digits, rfl, isDigitOf_of_mem_digitsOf isBase (shape ▸ List.mem_cons_self)⟩

theorem ofDigits_append_singleton (base : Nat) (digits : List Char) (digit : Char) :
    ofDigits base (digits ++ [digit]) = ofDigits base digits * base + digitValue digit := by
  simp only [ofDigits, List.foldl_append, List.foldl_cons, List.foldl_nil]

theorem ofDigits_digitsOf {base : Nat} (isBase : IsBase base) (number : Nat) :
    ofDigits base (digitsOf base number) = number := by
  induction number using Nat.base_induction base isBase.proper with
  | single number small =>
      have valueOf := digitValue_digitChar (Nat.lt_of_lt_of_le small isBase.atMost)
      rw [digitsOf, Nat.toDigits_of_lt_base small]
      simp only [ofDigits, List.foldl_cons, List.foldl_nil, valueOf, Nat.zero_mul, Nat.zero_add]
  | digit front last small positive induction =>
      have valueOf := digitValue_digitChar (Nat.lt_of_lt_of_le small isBase.atMost)
      rw [digitsOf_append isBase positive small, ofDigits_append_singleton, induction, valueOf,
        Nat.mul_comm]

theorem head?_digitsOf_ne_zero {base : Nat} (isBase : IsBase base) {number : Nat}
    (positive : 0 < number) :
    (digitsOf base number).head? ≠ some '0' := by
  induction number using Nat.base_induction base isBase.proper with
  | single number small =>
      rw [digitsOf, Nat.toDigits_of_lt_base small, List.head?_cons]
      intro isZero
      have valueOf := digitValue_digitChar (Nat.lt_of_lt_of_le small isBase.atMost)
      rw [Option.some.inj isZero] at valueOf
      exact absurd valueOf (Nat.ne_of_lt positive)
  | digit front last small frontPositive induction =>
      rw [digitsOf_append isBase frontPositive small]
      cases shape : digitsOf base front with
      | nil => exact absurd shape (digitsOf_ne_nil base front)
      | cons digit digits =>
          rw [shape] at induction
          exact induction frontPositive

theorem head?_digitsOf_ne_zero_of_several {base : Nat} (isBase : IsBase base) {number : Nat}
    (several : 1 < (digitsOf base number).length) :
    (digitsOf base number).head? ≠ some '0' := by
  apply head?_digitsOf_ne_zero isBase
  rcases Nat.eq_zero_or_pos number with isZero | positive
  · rw [isZero, digitsOf, Nat.toDigits_zero] at several
    exact absurd several (Nat.lt_irrefl 1)
  · exact positive

/-! ## Digits of a given width -/

theorem length_paddedDigits {base : Nat} (isBase : IsBase base) {width number : Nat}
    (positive : 0 < width) (small : number < Nat.pow base width) :
    (paddedDigits base width number).length = width := by
  have fits := length_digitsOf_le isBase positive small
  rw [paddedDigits, List.length_append, List.length_replicate]
  exact Nat.sub_add_cancel fits

theorem ofDigits_zeros_append (base count : Nat) (digits : List Char) :
    ofDigits base (List.replicate count '0' ++ digits) = ofDigits base digits := by
  have zero : digitValue '0' = 0 := rfl
  induction count with
  | zero => rfl
  | succ count induction =>
      rw [← induction, List.replicate_succ, List.cons_append, ofDigits, List.foldl_cons, zero,
        Nat.zero_mul, Nat.zero_add, ofDigits]

/-- Zeros in front do not change a number. -/
theorem ofDigits_paddedDigits {base : Nat} (isBase : IsBase base) (width number : Nat) :
    ofDigits base (paddedDigits base width number) = number := by
  rw [paddedDigits, ofDigits_zeros_append, ofDigits_digitsOf isBase]

theorem isDigitOf_of_mem_paddedDigits {base : Nat} (isBase : IsBase base) {width number : Nat}
    {digit : Char} (member : digit ∈ paddedDigits base width number) :
    isDigitOf base digit = true := by
  rcases List.mem_append.mp member with zero | proper
  · rw [List.eq_of_mem_replicate zero]
    exact decide_eq_true (Nat.zero_lt_of_lt isBase.proper)
  · exact isDigitOf_of_mem_digitsOf isBase proper

/-! ## Runs of characters -/

/-- A text that does not start with a character of some kind. -/
def Stops (kind : Char → Bool) (text : List Char) : Prop :=
  ∀ character ∈ text.head?, kind character = false

theorem stops_cons {kind : Char → Bool} {character : Char} {rest : List Char} :
    Stops kind (character :: rest) ↔ kind character = false := by
  simp [Stops]

@[simp]
theorem stops_nil {kind : Char → Bool} : Stops kind [] := by
  simp [Stops]

theorem Stops.takeWhile_append {kind : Char → Bool} {run rest : List Char}
    (stops : Stops kind rest) (all : ∀ character ∈ run, kind character = true) :
    (run ++ rest).takeWhile kind = run := by
  rw [List.takeWhile_append_of_pos all]
  cases rest with
  | nil => exact List.append_nil run
  | cons character rest => simp [stops_cons.mp stops]

theorem Stops.dropWhile_append {kind : Char → Bool} {run rest : List Char}
    (stops : Stops kind rest) (all : ∀ character ∈ run, kind character = true) :
    (run ++ rest).dropWhile kind = rest := by
  rw [List.dropWhile_append_of_pos all]
  cases rest with
  | nil => rfl
  | cons character rest => simp [stops_cons.mp stops]

theorem Stops.narrow {base wider : Nat} (atMost : base ≤ wider) {text : List Char}
    (stops : Stops (isDigitOf wider) text) :
    Stops (isDigitOf base) text := by
  intro character isHead
  rw [← Bool.not_eq_true]
  intro digit
  have notWider := stops character isHead
  rw [isDigitOf_mono atMost digit] at notWider
  exact absurd notWider (by decide)

/-- A run of digits is read as far as the text behind it. -/
theorem spanDigits_of_stops {base : Nat} {digits rest : List Char}
    (all : ∀ digit ∈ digits, isDigitOf base digit = true)
    (stops : Stops (isDigitOf base) rest) :
    spanDigits base (digits ++ rest) = (digits, rest) := by
  rw [spanDigits, stops.takeWhile_append all, stops.dropWhile_append all]

theorem Stops.spanDigits_eq {base : Nat} {text : List Char} (stops : Stops (isDigitOf base) text) :
    spanDigits base text = ([], text) :=
  spanDigits_of_stops (List.forall_mem_nil _) stops

theorem spanDigits_digitsOf {base : Nat} (isBase : IsBase base) (number : Nat) {rest : List Char}
    (stops : Stops (isDigitOf base) rest) :
    spanDigits base (digitsOf base number ++ rest) = (digitsOf base number, rest) :=
  spanDigits_of_stops (fun _ => isDigitOf_of_mem_digitsOf isBase) stops

theorem spanDigits_repr_append (number : Nat) {rest : List Char}
    (stops : Stops (isDigitOf 10) rest) :
    spanDigits 10 (number.repr.toList ++ rest) = (digitsOf 10 number, rest) := by
  have written : number.repr.toList = digitsOf 10 number := Nat.toList_repr
  rw [written, spanDigits_digitsOf isBase_ten number stops]

end Leadership.Text
