import Leadership.Proofs.Config.SaveLoad
import Leadership.Proofs.Toml.Bounds

/-!
# Configurations that are loaded and saved

What is read from a document has identifiers that fit a document again.  Whole
seconds need not: a span is read from seconds and further nanoseconds, which may
hold up to four seconds more, so that a span near the greatest integer can be
read and not written.  The main statement says that nothing else keeps a loaded
configuration from being saved.
-/

namespace Leadership

namespace Decode

open Toml

/-- Whatever is read from data that fits a document has a property. -/
def Reads {α : Type} (good : α → Prop) (read : Tree Empty → Decoded α) : Prop :=
  ∀ tree value, Fitting tree → read tree = .ok value → good value

/-! ## Scalars -/

theorem word_reads (size : Nat) (expected : Expected) :
    Reads (fun number => number ≤ greatestInt ∧ number < size) (word size expected) := by
  intro tree number fits reads
  unfold word at reads
  split at reads
  · split_ifs at reads with inRange
    cases reads
    cases fits with
    | int small => omega
  · contradiction

theorem nodeId_reads : Reads (fun node => node.toNat ≤ greatestInt) nodeId := by
  intro tree node fits reads
  unfold nodeId at reads
  cases read : word UInt64.size .word64 tree with
  | error mismatch => simp [read, Except.map] at reads
  | ok number =>
      obtain ⟨small, inRange⟩ := word_reads _ _ tree number fits read
      obtain rfl : NodeId.ofNat number = node := by
        simpa [read, Except.map] using reads
      rwa [NodeId.toNat_ofNat inRange]

/-! ## Records -/

section Records

variable {α : Type} {good : α → Prop} {read : Tree Empty → Decoded α} (reads : Reads good read)

include reads

theorem item_reads {expected : Expected} {place : Nat} {items : List (Tree Empty)}
    {broken : Option Empty} {value : α} (fits : ∀ item ∈ items, Fitting item)
    (found : item expected place read items broken = .ok value) : good value := by
  unfold item at found
  split at found
  · next tree present => exact reads tree value (fits tree (List.mem_of_getElem? present)) found
  · simp [bind_eq_ok_iff] at found

theorem required_reads {name : String} {entries : List (String × Tree Empty)} {value : α}
    (fits : ∀ entry ∈ entries, Fitting entry.2)
    (found : required name read entries = .ok value) : good value := by
  unfold required at found
  split at found
  · next tree present =>
      obtain ⟨before, behind, rfl, -⟩ := List.lookup_eq_some_iff.mp present
      exact reads tree value (fits (name, tree) (by simp)) found
  · contradiction

theorem mapM_reads {items : List (Tree Empty)} {values : List α}
    (fits : ∀ item ∈ items, Fitting item) (found : items.mapM read = .ok values) :
    ∀ value ∈ values, good value := by
  induction items generalizing values with
  | nil =>
      cases found
      exact List.forall_mem_nil _
  | cons item items induction =>
      obtain ⟨fitsFirst, fitsRest⟩ := List.forall_mem_cons.mp fits
      simp only [List.mapM_cons, bind_eq_ok_iff] at found
      obtain ⟨value, first, others, rest, same⟩ := found
      cases same
      exact List.forall_mem_cons.mpr ⟨reads item value fitsFirst first, induction fitsRest rest⟩

end Records

/-- The whole seconds of a span, with those that the nanoseconds carry. -/
theorem seconds_of_assembleSpan {seconds nanoseconds : Nat} {value : Span}
    (assembles : assembleSpan seconds nanoseconds = .ok value) :
    value.seconds = seconds + nanoseconds / secondLength := by
  have positive : 0 < secondLength := by decide
  rw [assembleSpan_eq] at assembles
  simp only at assembles
  split at assembles
  · next span made =>
      cases assembles
      unfold Span.ofParts? at made
      split_ifs at made
      cases made
      show (seconds * secondLength + nanoseconds) / secondLength = _
      rw [Nat.add_comm, Nat.add_mul_div_right _ _ positive, Nat.add_comm]
  · contradiction

theorem span_reads (surplus : Surplus) :
    Reads (fun value => value.seconds ≤ greatestInt + 4) (span surplus) := by
  have carries : ∀ seconds nanos value, seconds ≤ greatestInt ∧ seconds < UInt64.size →
      nanos ≤ greatestInt ∧ nanos < UInt32.size → assembleSpan seconds nanos = .ok value →
      value.seconds ≤ greatestInt + 4 := by
    intro seconds nanos value small short assembles
    have carried : nanos / secondLength ≤ 4 := by
      have few : nanos < 4294967296 := short.2
      simp only [secondLength]
      omega
    rw [seconds_of_assembleSpan assembles]
    omega
  intro tree value fits reads
  cases fits with
  | seq broken all =>
      simp only [span, bind_eq_ok_iff] at reads
      obtain ⟨seconds, first, nanos, second, assembled, made, -, -, same⟩ := reads
      cases same
      exact carries seconds nanos value (item_reads (word_reads _ _) all first)
        (item_reads (word_reads _ _) all second) made
  | map broken all =>
      simp only [span, bind_eq_ok_iff] at reads
      obtain ⟨-, -, -, -, seconds, first, nanos, second, made⟩ := reads
      exact carries seconds nanos value (required_reads (word_reads _ _) all first)
        (required_reads (word_reads _ _) all second) made
  | _ => contradiction

theorem patience_reads (surplus : Surplus) :
    Reads (fun value => value.timeout.seconds ≤ greatestInt + 4 ∧
      value.pause.seconds ≤ greatestInt + 4) (patience surplus) := by
  intro tree value fits reads
  cases fits with
  | seq broken all =>
      simp only [patience, bind_eq_ok_iff] at reads
      obtain ⟨timeout, first, pause, second, -, -, same⟩ := reads
      cases same
      exact ⟨item_reads (span_reads surplus) all first, item_reads (span_reads surplus) all second⟩
  | map broken all =>
      simp only [patience, bind_eq_ok_iff] at reads
      obtain ⟨-, -, -, -, timeout, first, pause, second, same⟩ := reads
      cases same
      exact ⟨required_reads (span_reads surplus) all first,
        required_reads (span_reads surplus) all second⟩
  | _ => contradiction

theorem member_reads (surplus : Surplus) :
    Reads (fun value => value.node.toNat ≤ greatestInt) (member surplus) := by
  intro tree value fits reads
  cases fits with
  | seq broken all =>
      simp only [member, bind_eq_ok_iff] at reads
      obtain ⟨node, first, name, -, address, -, -, -, same⟩ := reads
      cases same
      exact item_reads nodeId_reads all first
  | map broken all =>
      simp only [member, bind_eq_ok_iff] at reads
      obtain ⟨-, -, -, -, node, first, name, -, address, -, same⟩ := reads
      cases same
      exact required_reads nodeId_reads all first
  | _ => contradiction

theorem members_reads (surplus : Surplus) :
    Reads (fun values => ∀ value ∈ values, value.node.toNat ≤ greatestInt) (members surplus) := by
  intro tree values fits reads
  cases fits with
  | seq broken all =>
      simp only [members, bind_eq_ok_iff] at reads
      obtain ⟨items, found, -, -, same⟩ := reads
      cases same
      exact mapM_reads (member_reads surplus) all found
  | _ => contradiction

end Decode

namespace Config

/-- A configuration whose numbers fit a document, but for what nanoseconds carry. -/
structure NearlyFits (config : Config) : Prop where
  node : config.node.toNat ≤ Toml.greatestInt
  members : ∀ member ∈ config.members, member.node.toNat ≤ Toml.greatestInt
  timeout : config.patience.timeout.seconds ≤ Toml.greatestInt + 4
  pause : config.patience.pause.seconds ≤ Toml.greatestInt + 4

end Config

namespace Decode

open Toml

/-- A patience that is left out is the standard one, which is short. -/
theorem config_reads (surplus : Surplus) : Reads Config.NearlyFits (config surplus) := by
  have standard : Patience.standard.timeout.seconds ≤ greatestInt + 4 ∧
      Patience.standard.pause.seconds ≤ greatestInt + 4 := by decide
  intro tree value fits reads
  cases fits with
  | seq broken all =>
      simp only [config, bind_eq_ok_iff] at reads
      obtain ⟨node, first, name, -, members, third, reads⟩ := reads
      have fitsNode := item_reads nodeId_reads all first
      have fitsMembers := item_reads (members_reads surplus) all third
      split at reads
      · next tree present =>
          simp only [bind_eq_ok_iff] at reads
          obtain ⟨patience, fourth, -, -, same⟩ := reads
          cases same
          have waits := patience_reads surplus tree patience
            (all tree (List.mem_of_getElem? present)) fourth
          exact ⟨fitsNode, fitsMembers, waits.1, waits.2⟩
      · cases broken with
        | none =>
            simp only [bind_eq_ok_iff] at reads
            obtain ⟨patience, fourth, -, -, same⟩ := reads
            cases fourth
            cases same
            exact ⟨fitsNode, fitsMembers, standard.1, standard.2⟩
        | some impossible => exact impossible.elim
  | map broken all =>
      simp only [config, bind_eq_ok_iff] at reads
      obtain ⟨-, -, -, -, node, first, name, -, members, third, reads⟩ := reads
      have fitsNode := required_reads nodeId_reads all first
      have fitsMembers := required_reads (members_reads surplus) all third
      split at reads
      · next tree present =>
          obtain ⟨patience, fourth, same⟩ := bind_eq_ok_iff.mp reads
          cases same
          obtain ⟨before, behind, rfl, -⟩ := List.lookup_eq_some_iff.mp present
          have waits := patience_reads surplus tree patience
            (all ("leader_wait", tree) (by simp)) fourth
          exact ⟨fitsNode, fitsMembers, waits.1, waits.2⟩
      · cases reads
        exact ⟨fitsNode, fitsMembers, standard.1, standard.2⟩
  | _ => contradiction

end Decode

namespace Config

theorem nearlyFits_of_ofDocument {text : String} {config : Config}
    (loads : ofDocument text = .ok config) : config.NearlyFits := by
  unfold ofDocument at loads
  split at loads
  · contradiction
  · next tree found =>
      cases read : Decode.config .ignored tree with
      | error mismatch => simp [read, Except.mapError] at loads
      | ok value =>
          obtain rfl : value = config := by
            simpa [read, Except.mapError] using loads
          exact Decode.config_reads .ignored tree value (Toml.fitting_of_tree? found) read

/-- What is loaded fits a document exactly if its whole seconds do. -/
theorem NearlyFits.fits_iff {config : Config} (nearly : config.NearlyFits) :
    config.Fits ↔
      config.patience.timeout.seconds ≤ Toml.greatestInt ∧
        config.patience.pause.seconds ≤ Toml.greatestInt := by
  constructor
  · intro fits
    exact ⟨fits.timeout, fits.pause⟩
  · rintro ⟨timeout, pause⟩
    exact ⟨nearly.node, nearly.members, timeout, pause⟩

/-- Without fitting numbers nothing is written anywhere. -/
theorem save_of_not_fits {config : Config} (overlong : ¬config.Fits) (place : Place) :
    config.save place = (.error .unwritable, place) := by
  rw [save, toDocument?, if_neg (mt numbers_all_isWritable_iff.mp overlong)]

theorem exists_write {place : Place} (writable : place = .vacant ∨ ∃ content, place = .file content)
    (text : String) : ∃ written, place.write text = .ok written := by
  rcases writable with rfl | ⟨content, rfl⟩
  · exact ⟨.file text.toUTF8, rfl⟩
  · exact ⟨.file text.toUTF8, rfl⟩

/-! ## The main statement -/

/--
A configuration that was loaded from some document is saved again, on a fresh
path or on a file, exactly if the whole seconds of its spans are at most the
greatest integer of a document, and then it is loaded as it was.  No loaded span
is more than four seconds longer than that; one that is longer at all keeps the
configuration from being saved, and the place stays as it is.
-/
theorem load_then_save (text : String) (config : Config) (place : Place)
    (loads : ofDocument text = .ok config)
    (writable : place = .vacant ∨ ∃ content, place = .file content) :
    ((config.save place).1 = .ok () ↔
        config.patience.timeout.seconds ≤ 2 ^ 63 - 1 ∧
          config.patience.pause.seconds ≤ 2 ^ 63 - 1) ∧
      ((config.save place).1 = .ok () → load (config.save place).2 = .ok config) ∧
      ((config.save place).1 ≠ .ok () → config.save place = (.error .unwritable, place)) ∧
      config.patience.timeout.seconds ≤ 2 ^ 63 + 3 ∧
      config.patience.pause.seconds ≤ 2 ^ 63 + 3 := by
  have nearly := nearlyFits_of_ofDocument loads
  have saved : (config.save place).1 = .ok () ↔ config.Fits :=
    save_eq_ok_iff (exists_write writable)
  refine ⟨saved.trans nearly.fits_iff, load_of_save, ?_, nearly.timeout, nearly.pause⟩
  intro refused
  exact save_of_not_fits (mt saved.mpr refused) place

/-- The document of a node without members, with the two parts of its timeout. -/
def enduringDocument (timeout : String) : String :=
  "node_id = 1\ncluster_name = ''\nmembers = []\nleader_wait = [[" ++ timeout ++ "], [1, 0]]"

/-- What such a document holds. -/
def enduring (timeout : Span) : Config :=
  ⟨.ofNat 1, "", [], ⟨timeout, .ofMilliseconds 1000⟩⟩

/-- The greatest integer as whole seconds, the last of which is carried. -/
theorem load_then_save_carried :
    let config := enduring ⟨(2 ^ 63 - 1) * 10 ^ 9 + 999999999, by decide⟩
    ofDocument (enduringDocument "0x7ffffffffffffffe, 1_999_999_999") = .ok config ∧
      (config.save .vacant).1 = .ok () ∧ load (config.save .vacant).2 = .ok config := by
  intro config
  have loads : ofDocument (enduringDocument "0x7ffffffffffffffe, 1_999_999_999") = .ok config :=
    eq_ok_of_toOption (by decide +kernel)
  have outcome := load_then_save _ config .vacant loads (.inl rfl)
  have saved := outcome.1.mpr (by decide)
  exact ⟨loads, saved, outcome.2.1 saved⟩

/-- A carried second beyond the greatest integer is read and cannot be written. -/
theorem carried_not_saved :
    let config := enduring ⟨2 ^ 63 * 10 ^ 9, by decide⟩
    ofDocument (enduringDocument "9223372036854775807, 1000000000") = .ok config ∧
      config.save .vacant = (.error .unwritable, .vacant) := by
  intro config
  have overlong : ¬config.Fits := fun fits => absurd fits.timeout (by decide)
  exact ⟨eq_ok_of_toOption (by decide +kernel), save_of_not_fits overlong .vacant⟩

end Config

end Leadership
