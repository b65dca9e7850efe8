import Leadership.Proofs.Config.Reload
import Mathlib.Logic.Basic
import Mathlib.Tactic.ByContra

/-!
# Saves that fail

A save can fail in two ways, and the first rules the second out: a number is too
large for a document, or the place cannot be written.  It makes no difference
where in the document the number would stand, since nothing is written before all
numbers are known to fit.  The main statement says which fault is raised when, and
that the place stays as it was under either.
-/

namespace Leadership.Config

open Toml

/-! ## Numbers of a document -/

/-- Some number of a document, on whatever line, is beyond the greatest integer. -/
def Overlong (lines : List Line) : Prop :=
  ∃ key number, Line.pair key (.number number) ∈ lines ∧ greatestInt < number

/-- The identifiers and the whole seconds are all that can be too large in a document. -/
theorem fits_iff_not_overlong {config : Config} :
    config.Fits ↔ ¬Overlong config.lines := by
  constructor
  · rintro fits ⟨key, number, isLine, large⟩
    have readable : number ≤ greatestInt := (fits.readable_lines _ isLine).2
    exact absurd large (Nat.not_lt_of_le readable)
  · intro short
    have small : ∀ key number, Line.pair key (.number number) ∈ config.lines →
        number ≤ greatestInt := by
      intro key number isLine
      exact Nat.le_of_not_lt fun large => short ⟨key, number, isLine, large⟩
    constructor
    · apply small "node_id"
      simp [lines]
    · intro member isMember
      apply small "id"
      have isLine : Line.pair "id" (.number member.node.toNat) ∈
          config.members.flatMap memberLines :=
        List.mem_flatMap.mpr ⟨member, isMember, by simp [memberLines]⟩
      simp [lines, isLine]
    · apply small "secs"
      simp [lines, spanLines]
    · apply small "secs"
      simp [lines, spanLines]

/-! ## What a save does -/

/-- A place that holds no file and cannot be given one. -/
def Blocked (place : Place) : Prop :=
  place = .directory ∨ place = .inMissingDirectory ∨ place = .belowFile

theorem write_eq_error_iff {place : Place} {text : String} :
    (∃ cause, place.write text = .error cause) ↔ Blocked place := by
  cases place <;> simp [Place.write, Blocked]

/--
A save finds out that a number does not fit, or that the place cannot be written,
or it writes the document.  Only then is the place another one.
-/
theorem save_cases (config : Config) (place : Place) :
    (¬config.Fits ∧ config.save place = (.error .unwritable, place)) ∨
      (config.Fits ∧ Blocked place ∧ ∃ cause, config.save place = (.error (.file cause), place)) ∨
      (config.Fits ∧ ¬Blocked place ∧ (config.save place).1 = .ok ()) := by
  by_cases fits : config.Fits
  · right
    have document : config.toDocument? = some (writeLines config.lines) :=
      toDocument?_eq_some_iff.mpr ⟨fits, rfl⟩
    cases writes : place.write (writeLines config.lines) with
    | error cause =>
        left
        refine ⟨fits, write_eq_error_iff.mp ⟨cause, writes⟩, cause, ?_⟩
        simp only [save, document, writes]
    | ok written =>
        right
        refine ⟨fits, ?_, ?_⟩
        · intro blocked
          rcases write_eq_error_iff.mpr blocked with ⟨cause, fails⟩
          rw [writes] at fails
          contradiction
        · simp only [save, document, writes]
  · left
    exact ⟨fits, save_of_not_fits fits place⟩

/-- The fault that a save raises. -/
def raised (config : Config) (place : Place) : Option Fault :=
  match (config.save place).1 with
  | .ok _ => none
  | .error cause => some cause.fault

/-- The two ways to fail begin with different words. -/
theorem serialize_ne_write (detail other : String) :
    "Failed to serialize config: " ++ detail ≠ "Failed to write config file: " ++ other := by
  intro same
  have apart : ("Failed to serialize config: " ++ detail).toList[10]? =
      ("Failed to write config file: " ++ other).toList[10]? := by
    rw [same]
  simp [String.toList_append] at apart

theorem raised_cases (config : Config) (place : Place) :
    (¬config.Fits ∧ ∃ detail,
        config.raised place = some (.configuration ("Failed to serialize config: " ++ detail))) ∨
      (config.Fits ∧ Blocked place ∧ ∃ detail,
        config.raised place = some (.configuration ("Failed to write config file: " ++ detail))) ∨
      (config.Fits ∧ ¬Blocked place ∧ config.raised place = none) := by
  rcases config.save_cases place with ⟨overlong, outcome⟩ | ⟨fits, blocked, cause, outcome⟩ |
    ⟨fits, free, outcome⟩
  · refine .inl ⟨overlong, "out-of-range value for u64 type", ?_⟩
    rw [raised, outcome]
    rfl
  · refine .inr (.inl ⟨fits, blocked, cause.message, ?_⟩)
    rw [raised, outcome]
    rfl
  · refine .inr (.inr ⟨fits, free, ?_⟩)
    rw [raised, outcome]

/-- Whatever the place, a number that does not fit is the fault. -/
theorem raised_serialize_iff {config : Config} {place : Place} :
    (∃ detail,
      config.raised place = some (.configuration ("Failed to serialize config: " ++ detail))) ↔
        ¬config.Fits := by
  rcases config.raised_cases place with ⟨overlong, fault⟩ | ⟨fits, -, other, fault⟩ |
    ⟨fits, -, fault⟩
  · exact iff_of_true fault overlong
  · refine iff_of_false ?_ (not_not.mpr fits)
    rintro ⟨detail, same⟩
    rw [fault] at same
    exact serialize_ne_write detail other (by simpa using same.symm)
  · exact iff_of_false (by simp [fault]) (not_not.mpr fits)

/-- Only a document that could be written shows that its place cannot. -/
theorem raised_write_iff {config : Config} {place : Place} :
    (∃ detail,
      config.raised place = some (.configuration ("Failed to write config file: " ++ detail))) ↔
        config.Fits ∧ Blocked place := by
  rcases config.raised_cases place with ⟨overlong, other, fault⟩ | ⟨fits, blocked, fault⟩ |
    ⟨fits, free, fault⟩
  · refine iff_of_false ?_ fun both => overlong both.1
    rintro ⟨detail, same⟩
    rw [fault] at same
    exact serialize_ne_write other detail (by simpa using same)
  · exact iff_of_true fault ⟨fits, blocked⟩
  · exact iff_of_false (by simp [fault]) fun both => free both.2

theorem place_of_raised {config : Config} {place : Place} {fault : Fault}
    (fails : config.raised place = some fault) : (config.save place).2 = place := by
  rcases config.save_cases place with ⟨-, outcome⟩ | ⟨-, -, cause, outcome⟩ | ⟨-, -, outcome⟩
  · rw [outcome]
  · rw [outcome]
  · rw [raised, outcome] at fails
    contradiction

theorem not_fits_iff {config : Config} :
    ¬config.Fits ↔
      greatestInt < config.node.toNat ∨
        (∃ member ∈ config.members, greatestInt < member.node.toNat) ∨
        greatestInt < config.patience.timeout.seconds ∨
        greatestInt < config.patience.pause.seconds := by
  constructor
  · intro overlong
    by_contra small
    simp only [not_or, not_exists, not_and, Nat.not_lt] at small
    rcases small with ⟨node, members, timeout, pause⟩
    exact overlong ⟨node, members, timeout, pause⟩
  · rintro (large | ⟨member, isMember, large⟩ | large | large) fits
    · exact Nat.not_lt_of_le fits.node large
    · exact Nat.not_lt_of_le (fits.members member isMember) large
    · exact Nat.not_lt_of_le fits.timeout large
    · exact Nat.not_lt_of_le fits.pause large

/-! ## The main statement -/

/--
A save fails to serialize exactly if the node's identifier, that of some member
or the whole seconds of a span are beyond the greatest integer of a document,
which is to say that some line of the document would hold such a number; the
place does not matter.  It fails to write exactly if all of them fit and the
place is a directory, in one that is missing, or below a file.  There are no other
faults, and under each the place is left as it was.
-/
theorem failed_save_changes_nothing (config : Config) (place : Place) :
    ((∃ detail,
        config.raised place = some (.configuration ("Failed to serialize config: " ++ detail))) ↔
          2 ^ 63 - 1 < config.node.toNat ∨
            (∃ member ∈ config.members, 2 ^ 63 - 1 < member.node.toNat) ∨
            2 ^ 63 - 1 < config.patience.timeout.seconds ∨
            2 ^ 63 - 1 < config.patience.pause.seconds) ∧
      ((∃ detail,
        config.raised place = some (.configuration ("Failed to write config file: " ++ detail))) ↔
          (config.node.toNat ≤ 2 ^ 63 - 1 ∧
            (∀ member ∈ config.members, member.node.toNat ≤ 2 ^ 63 - 1) ∧
            config.patience.timeout.seconds ≤ 2 ^ 63 - 1 ∧
            config.patience.pause.seconds ≤ 2 ^ 63 - 1) ∧
          (place = .directory ∨ place = .inMissingDirectory ∨ place = .belowFile)) ∧
      ((∃ detail,
        config.raised place = some (.configuration ("Failed to serialize config: " ++ detail))) ↔
          ∃ key number, Line.pair key (.number number) ∈ config.lines ∧ 2 ^ 63 - 1 < number) ∧
      ∀ fault, config.raised place = some fault →
        (config.save place).2 = place ∧
          ∃ detail, fault = .configuration ("Failed to serialize config: " ++ detail) ∨
            fault = .configuration ("Failed to write config file: " ++ detail) := by
  refine ⟨raised_serialize_iff.trans not_fits_iff, ?_, ?_, ?_⟩
  · rw [raised_write_iff]
    apply and_congr_left
    intro _
    constructor
    · intro fits
      exact ⟨fits.node, fits.members, fits.timeout, fits.pause⟩
    · rintro ⟨node, members, timeout, pause⟩
      exact ⟨node, members, timeout, pause⟩
  · rw [raised_serialize_iff, fits_iff_not_overlong, not_not]
    rfl
  · intro fault fails
    refine ⟨place_of_raised fails, ?_⟩
    rcases config.raised_cases place with ⟨-, detail, same⟩ | ⟨-, -, detail, same⟩ | ⟨-, -, same⟩
    · exact ⟨detail, .inl (Option.some.inj (fails.symm.trans same))⟩
    · exact ⟨detail, .inr (Option.some.inj (fails.symm.trans same))⟩
    · rw [same] at fails
      contradiction

end Leadership.Config
