import Leadership.Span
import Leadership.Proofs.Text.Digits
import Mathlib.Data.List.DropRight
import Mathlib.Tactic.SplitIfs

/-!
# Reading spans

A span is read back from its text.  The unit stands behind the digits and tells
how many places the fraction has, so that the zeros which the text leaves out can
be put back; in which of the units a span is written does not matter for that.
-/

namespace Leadership.Span

open Text

/-! ## Fractions -/

/-- A fraction is written by its places without the zeros at the end. -/
theorem fractionDigits_eq (places fraction : Nat) :
    fractionDigits places fraction = (paddedDigits 10 places fraction).rdropWhile (· == '0') :=
  rfl

theorem isDigitOf_of_mem_fractionDigits {places fraction : Nat} {character : Char}
    (member : character ∈ fractionDigits places fraction) : isDigitOf 10 character = true := by
  rw [fractionDigits_eq] at member
  exact isDigitOf_of_mem_paddedDigits isBase_ten ((List.rdropWhile_prefix _ _).subset member)

/-- With the zeros put back a fraction has all its places again. -/
theorem ofDigits_fractionDigits {places fraction : Nat} (positive : 0 < places)
    (small : fraction < Nat.pow 10 places) :
    ofDigits 10 (fractionDigits places fraction ++
      List.replicate (places - (fractionDigits places fraction).length) '0') = fraction := by
  have whole : fractionDigits places fraction ++
      (paddedDigits 10 places fraction).rtakeWhile (· == '0') = paddedDigits 10 places fraction :=
    List.rdropWhile_append_rtakeWhile
  have left : (paddedDigits 10 places fraction).rtakeWhile (· == '0') =
      List.replicate (places - (fractionDigits places fraction).length) '0' := by
    rw [List.eq_replicate_iff]
    constructor
    · have lengths := congrArg List.length whole
      rw [List.length_append, length_paddedDigits isBase_ten positive small] at lengths
      omega
    · intro character member
      simpa using List.mem_rtakeWhile_imp member
  rw [← left, whole, ofDigits_paddedDigits isBase_ten]

/-! ## Counts of a unit -/

/-- The nanoseconds of a count of units that have `10 ^ places` of them. -/
def countOf (places : Nat) (text : List Char) : Nat :=
  match spanDigits 10 text with
  | (whole, '.' :: fraction) =>
      ofDigits 10 whole * Nat.pow 10 places +
        ofDigits 10 (fraction ++ List.replicate (places - fraction.length) '0')
  | (whole, _) => ofDigits 10 whole * Nat.pow 10 places

theorem toList_inUnit (nanoseconds places : Nat) :
    (inUnit nanoseconds places).toList =
      digitsOf 10 (nanoseconds / Nat.pow 10 places) ++
        if nanoseconds % Nat.pow 10 places = 0 then []
        else '.' :: fractionDigits places (nanoseconds % Nat.pow 10 places) := by
  have whole : (nanoseconds / Nat.pow 10 places).repr.toList =
      digitsOf 10 (nanoseconds / Nat.pow 10 places) := Nat.toList_repr
  rw [inUnit]
  split_ifs with noFraction
  · simp only [noFraction, whole, List.append_nil]
  · split
    · contradiction
    · simp only [String.toList_append, String.toList_ofList, whole, List.append_assoc]
      rfl

theorem countOf_inUnit (nanoseconds places : Nat) :
    countOf places (inUnit nanoseconds places).toList = nanoseconds := by
  have split := Nat.div_add_mod' nanoseconds (Nat.pow 10 places)
  rw [toList_inUnit, countOf]
  split_ifs with noFraction
  · rw [spanDigits_digitsOf isBase_ten _ stops_nil]
    simp only [ofDigits_digitsOf isBase_ten]
    omega
  · rw [spanDigits_digitsOf isBase_ten _ (stops_cons.mpr rfl)]
    have small : nanoseconds % Nat.pow 10 places < Nat.pow 10 places :=
      Nat.mod_lt _ (Nat.pow_pos (by decide))
    have positive : 0 < places := by
      rcases Nat.eq_zero_or_pos places with rfl | positive
      · exact absurd (Nat.mod_one nanoseconds) noFraction
      · exact positive
    simp only [ofDigits_digitsOf isBase_ten, ofDigits_fractionDigits positive small, split]

/-! ## Units -/

/-- The places of the unit with a name. -/
def placesOf? : List Char → Option Nat
  | ['s'] => some 9
  | ['m', 's'] => some 6
  | ['µ', 's'] => some 3
  | ['n', 's'] => some 0
  | _ => none

/-- Whether a character stands in front of a unit. -/
def isNumeric (character : Char) : Bool :=
  isDigitOf 10 character || character == '.'

/-- The nanoseconds of the span with a text. -/
def nanoseconds? (text : List Char) : Option Nat :=
  (placesOf? (text.dropWhile isNumeric)).map fun places =>
    countOf places (text.takeWhile isNumeric)

theorem isNumeric_of_mem_inUnit {nanoseconds places : Nat} {character : Char}
    (member : character ∈ (inUnit nanoseconds places).toList) : isNumeric character = true := by
  have ofDigit (digit : isDigitOf 10 character = true) : isNumeric character = true := by
    rw [isNumeric, digit, Bool.true_or]
  rw [toList_inUnit] at member
  split_ifs at member with noFraction
  · rw [List.append_nil] at member
    exact ofDigit (isDigitOf_of_mem_digitsOf isBase_ten member)
  · rcases List.mem_append.mp member with whole | behind
    · exact ofDigit (isDigitOf_of_mem_digitsOf isBase_ten whole)
    · rcases List.mem_cons.mp behind with rfl | fraction
      · rfl
      · exact ofDigit (isDigitOf_of_mem_fractionDigits fraction)

/-- The unit of a span starts where its count ends. -/
theorem nanoseconds?_inUnit (nanoseconds : Nat) {places : Nat} {unit : String}
    (known : placesOf? unit.toList = some places) (stops : Stops isNumeric unit.toList) :
    nanoseconds? (inUnit nanoseconds places ++ unit).toList = some nanoseconds := by
  have numeric : ∀ character ∈ (inUnit nanoseconds places).toList, isNumeric character = true :=
    fun _ => isNumeric_of_mem_inUnit
  rw [nanoseconds?, String.toList_append, stops.dropWhile_append numeric,
    stops.takeWhile_append numeric, known, Option.map_some, countOf_inUnit]

/-- A span is a count of one of the units. -/
theorem text_cases (span : Span) :
    ∃ unit places, span.text = inUnit span.nanoseconds places ++ unit ∧
      placesOf? unit.toList = some places ∧ Stops isNumeric unit.toList ∧ ':' ∉ unit.toList := by
  rw [text]
  split_ifs
  · exact ⟨"s", 9, rfl, rfl, stops_cons.mpr rfl, by decide⟩
  · exact ⟨"ms", 6, rfl, rfl, stops_cons.mpr rfl, by decide⟩
  · exact ⟨"µs", 3, rfl, rfl, stops_cons.mpr rfl, by decide⟩
  · exact ⟨"ns", 0, rfl, rfl, stops_cons.mpr rfl, by decide⟩

/-- A span is read back from its text. -/
theorem nanoseconds?_text (span : Span) :
    nanoseconds? span.text.toList = some span.nanoseconds := by
  obtain ⟨unit, places, written, known, stops, -⟩ := span.text_cases
  rw [written, nanoseconds?_inUnit span.nanoseconds known stops]

theorem colon_notMem_text (span : Span) : ':' ∉ span.text.toList := by
  obtain ⟨unit, places, written, -, -, absent⟩ := span.text_cases
  rw [written, String.toList_append]
  intro member
  rcases List.mem_append.mp member with inCount | inUnit
  · exact absurd (isNumeric_of_mem_inUnit inCount) (by decide)
  · exact absent inUnit

/-- In front of a colon the text of a span tells the span and leaves what is behind it. -/
theorem text_append_colon_inj {left right : Span} {behind other : List Char} :
    left.text.toList ++ ':' :: behind = right.text.toList ++ ':' :: other ↔
      left.nanoseconds = right.nanoseconds ∧ behind = other := by
  have ends (rest : List Char) : Stops (· != ':') (':' :: rest) := stops_cons.mpr rfl
  have runs (span : Span) : ∀ character ∈ span.text.toList, (character != ':') = true := by
    intro character member
    simpa using ne_of_mem_of_not_mem member span.colon_notMem_text
  constructor
  · intro same
    have text : left.text.toList = right.text.toList := by
      rw [← (ends behind).takeWhile_append (runs left), same,
        (ends other).takeWhile_append (runs right)]
    have read := left.nanoseconds?_text
    rw [text, right.nanoseconds?_text] at read
    rw [text, List.append_right_inj, List.cons.injEq] at same
    exact ⟨(Option.some.inj read).symm, same.2⟩
  · rintro ⟨length, rfl⟩
    rw [text, text, length]

theorem text_append_inj {left right : Span} {behind other : String} :
    left.text ++ (": " ++ behind) = right.text ++ (": " ++ other) ↔
      left.nanoseconds = right.nanoseconds ∧ behind = other := by
  have spelled (span : Span) (rest : String) :
      (span.text ++ (": " ++ rest)).toList = span.text.toList ++ ':' :: (' ' :: rest.toList) := by
    rw [String.toList_append, String.toList_append]
    rfl
  rw [← String.toList_inj, spelled, spelled, text_append_colon_inj, List.cons.injEq,
    String.toList_inj, and_iff_right rfl]

end Leadership.Span
