import Leadership.Proofs.Config.Trees
import Leadership.Proofs.Json.Values
import Mathlib.Algebra.Group.Nat.Defs

/-!
# Texts that are exchanged

Identifiers, members, patiences and configurations are read back from the texts
that are written for them.  So whatever text says a value, the text written for
that value is a standard form of it: it says the same, it is its own standard
form, and two texts have the same one exactly if they say the same.
-/

namespace Leadership

/-! ## The values that are read back -/

namespace Encode

open Json

theorem readBack_nodeId (node : NodeId) {depth : Nat} :
    ReadBack depth (nodeId node) (nodeId node) :=
  readBack_nat node.toNat_lt

theorem readBack_span (value : Span) : ReadBack 1 (span value) (span value) := by
  have inRange : secondLength < UInt64.size := by decide
  apply readBack_record
  exact .cons ⟨rfl, readBack_nat value.seconds_lt⟩
    (.cons ⟨rfl, readBack_nat (Nat.lt_trans value.subsecond_lt inRange)⟩ .nil)

theorem readBack_patience (value : Patience) : ReadBack 2 (patience value) (patience value) := by
  apply readBack_record
  exact .cons ⟨rfl, readBack_span value.timeout⟩ (.cons ⟨rfl, readBack_span value.pause⟩ .nil)

theorem readBack_member (value : Member) : ReadBack 1 (member value) (member value) := by
  apply readBack_record
  exact .cons ⟨rfl, readBack_nodeId value.node⟩
    (.cons ⟨rfl, readBack_text value.name⟩
      (.cons ⟨rfl, readBack_text value.endpoint.text⟩ .nil))

theorem readBack_members (values : List Member) :
    ReadBack 2 (.list (values.map member)) (.list (values.map member)) := by
  apply readBack_list
  rw [List.forall₂_map_left_iff, List.forall₂_map_right_iff, List.forall₂_same]
  intro value _
  exact readBack_member value

theorem readBack_config (value : Config) : ReadBack 3 (config value) (config value) := by
  apply readBack_record
  exact .cons ⟨rfl, readBack_nodeId value.node⟩
    (.cons ⟨rfl, readBack_text value.clusterName⟩
      (.cons ⟨rfl, readBack_members value.members⟩
        (.cons ⟨rfl, readBack_patience value.patience⟩ .nil)))

end Encode

/-! ## The exchanged types -/

namespace Json.Exchanged

/-- The values of an exchanged type. -/
def Carrier : Exchanged → Type
  | .nodeId => NodeId
  | .member => Member
  | .patience => Patience
  | .config => Config

/-- The value that a text says. -/
def ofText : (exchanged : Exchanged) → String → Decoded exchanged.Carrier
  | .nodeId => readText Decode.nodeId
  | .member => readText (Decode.member .malformed)
  | .patience => readText (Decode.patience .malformed)
  | .config => readText (Decode.config .malformed)

/-- The compact text that is written for a value. -/
def toText : (exchanged : Exchanged) → exchanged.Carrier → String
  | .nodeId, value => Value.toText (Encode.nodeId value)
  | .member, value => Value.toText (Encode.member value)
  | .patience, value => Value.toText (Encode.patience value)
  | .config, value => Value.toText (Encode.config value)

/-- A text is rewritten by reading a value and writing it. -/
theorem rewrite_eq (exchanged : Exchanged) (text : String) :
    rewrite exchanged text = (exchanged.ofText text).map exchanged.toText := by
  cases exchanged <;> rfl

/-- Whatever is written is read back. -/
theorem ofText_toText (exchanged : Exchanged) (value : exchanged.Carrier) :
    exchanged.ofText (exchanged.toText value) = .ok value := by
  cases exchanged with
  | nodeId =>
      have reads := (Encode.readBack_nodeId value).readText (Nat.zero_le _) Decode.nodeId
      exact reads.trans (Decode.nodeId_encode value)
  | member =>
      have short : 1 ≤ (write (Encode.member value)).length :=
        le_length_write_record (Nat.le_of_ble_eq_true rfl)
      have reads := (Encode.readBack_member value).readText short (Decode.member .malformed)
      exact reads.trans (Decode.member_encode .malformed value)
  | patience =>
      have short : 2 ≤ (write (Encode.patience value)).length :=
        le_length_write_record (Nat.le_of_ble_eq_true rfl)
      have reads := (Encode.readBack_patience value).readText short (Decode.patience .malformed)
      exact reads.trans (Decode.patience_encode .malformed value)
  | config =>
      have short : 3 ≤ (write (Encode.config value)).length :=
        le_length_write_record (Nat.le_of_ble_eq_true rfl)
      have reads := (Encode.readBack_config value).readText short (Decode.config .malformed)
      exact reads.trans (Decode.config_encode .malformed value)

theorem toText_injective (exchanged : Exchanged) : Function.Injective exchanged.toText := by
  intro left right same
  have read := exchanged.ofText_toText left
  rw [same, exchanged.ofText_toText right] at read
  exact (Except.ok.inj read).symm

theorem rewrite_of_ofText {exchanged : Exchanged} {text : String} {value : exchanged.Carrier}
    (holds : exchanged.ofText text = .ok value) :
    rewrite exchanged text = .ok (exchanged.toText value) := by
  rw [rewrite_eq, holds]
  rfl

/-! ## The main statement -/

/--
Values of each exchanged type are read back from their texts.  A text that says a
value is rewritten to one that says the same and that is rewritten to itself; and
two such texts are rewritten to the same text exactly if they say the same value.
-/
theorem exchanged_texts (exchanged : Exchanged) :
    (∀ value, exchanged.ofText (exchanged.toText value) = .ok value) ∧
      (∀ text value, exchanged.ofText text = .ok value →
        ∃ written, rewrite exchanged text = .ok written ∧
          exchanged.ofText written = .ok value ∧ rewrite exchanged written = .ok written) ∧
      ∀ text value other otherValue, exchanged.ofText text = .ok value →
        exchanged.ofText other = .ok otherValue →
          (rewrite exchanged text = rewrite exchanged other ↔ value = otherValue) := by
  refine ⟨exchanged.ofText_toText, ?_, ?_⟩
  · intro text value holds
    have standard := exchanged.ofText_toText value
    exact ⟨_, rewrite_of_ofText holds, standard, rewrite_of_ofText standard⟩
  · intro text value other otherValue holds otherHolds
    rw [rewrite_of_ofText holds, rewrite_of_ofText otherHolds, Except.ok.injEq]
    exact exchanged.toText_injective.eq_iff

/-- A configuration with the greatest identifier, an awkward name, and an address within another. -/
def distant : Config where
  node := .ofNat (2 ^ 64 - 1)
  clusterName := "\x00/😀"
  members := [⟨.ofNat 0, "", .v6 ⟨[0, 0, 0, 0, 0, 0xffff, 0x7f00, 2], rfl⟩ 7 1⟩]
  patience := ⟨⟨1999999999, by decide⟩, .ofMilliseconds 0⟩

/-- The same by position, with nanoseconds that carry and with escapes that are not needed. -/
def distantText : String :=
  "[ 18446744073709551615,\"\\u0000\\/\\uD83d\\ude00\",[[0,\"\",\"[::FFFF:7f00:2%7]:01\"]]," ++
    "[\x7b\"nanos\":1999999999,\"secs\":0\x7d,[0,0]]]"

theorem exchanged_texts_distant :
    ∃ written, rewrite .config distantText = .ok written ∧
      ofText .config written = .ok distant ∧ rewrite .config written = .ok written := by
  have holds : readText (Decode.config .malformed) distantText = .ok distant :=
    eq_ok_of_toOption (by decide +kernel)
  exact (exchanged_texts .config).2.1 distantText distant holds

end Json.Exchanged

end Leadership
