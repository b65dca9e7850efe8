import Leadership.Consult
import Leadership.Proofs.Json.Values
import Mathlib.Data.List.Forall2

/-!
# The text of a status

A status is written as a JSON object with its six fields.  Whatever the name of
the cluster and the wording of a fault contain, reading the text gives back an
object with these fields and no others, each of which says what the status says;
a leader or a fault that is not there is null, and nothing else is.
-/

namespace Leadership

open Json

namespace Status

/-- The fields of a status in the order in which they are written. -/
def fields {gap : Type} (status : Status) : List (String × Tree gap) :=
  [("cluster_name", .text status.clusterName),
    ("node_id", .nat status.node.toNat),
    ("leader_id", (status.leader.map (fun leader => .nat leader.toNat)).getD .null),
    ("is_leader", .bool status.isLeader),
    ("member_count", .nat status.memberCount),
    ("error", (status.error.map .text).getD .null)]

/-- A JSON object that says what a status says, and nothing else. -/
structure SaidBy (status : Status) (value : Value) : Prop where
  fields : ∃ entries, value = .record entries ∧
    (entries.map Prod.fst).Perm
      ["cluster_name", "node_id", "leader_id", "is_leader", "member_count", "error"]
  clusterName : value.get? "cluster_name" = some (.text status.clusterName)
  node : value.get? "node_id" = some (.nat status.node.toNat)
  leader : ∀ leader : NodeId,
    value.get? "leader_id" = some (.nat leader.toNat) ↔ status.leader = some leader
  leaderless : value.get? "leader_id" = some .null ↔ status.leader = none
  isLeader : value.get? "is_leader" = some (.bool status.isLeader)
  memberCount : value.get? "member_count" = some (.nat status.memberCount)
  error : ∀ text, value.get? "error" = some (.text text) ↔ status.error = some text
  errorless : value.get? "error" = some .null ↔ status.error = none

variable {status : Status}

/-! ## Reading the text -/

/-- Something that may be missing is read back, as null if it is missing. -/
theorem readBack_optional {α : Type} {tell : α → Value} {told : α → Tree Malformed} {depth : Nat}
    (reads : ∀ content, ReadBack depth (tell content) (told content)) (optional : Option α) :
    ReadBack depth ((optional.map tell).getD .null) ((optional.map told).getD .null) := by
  cases optional with
  | none => exact readBack_null
  | some content => exact reads content

theorem readBack_toValue (counted : status.memberCount < UInt64.size) :
    ReadBack 1 status.toValue (.record status.fields) := by
  apply readBack_record
  exact .cons ⟨rfl, readBack_text status.clusterName⟩
    (.cons ⟨rfl, readBack_nat status.node.toNat_lt⟩
      (.cons ⟨rfl, readBack_optional (fun leader => readBack_nat leader.toNat_lt) status.leader⟩
        (.cons ⟨rfl, readBack_bool status.isLeader⟩
          (.cons ⟨rfl, readBack_nat counted⟩
            (.cons ⟨rfl, readBack_optional readBack_text status.error⟩ .nil)))))

/-- No field of a status has a gap. -/
theorem settleEntries_fields (status : Status) :
    settleEntries status.fields = some status.fields := by
  cases status with
  | mk clusterName node leader isLeader memberCount error =>
      cases leader <;> cases error <;> rfl

/-- The text of a status holds its fields, in the order of their names. -/
theorem ofText?_toText (status : Status) (counted : status.memberCount < UInt64.size) :
    Value.ofText? status.toText = some (.record (sortEntries status.fields)) := by
  have short : 1 ≤ (write status.toValue).length :=
    le_length_write_record (Nat.le_of_ble_eq_true rfl)
  rw [Value.ofText?, toText, (readBack_toValue counted).outline short]
  simp only [if_true, Tree.record, settle, settleEntries_fields, Option.map_some]

theorem sortEntries_fields (status : Status) :
    (sortEntries status.fields : List (String × Value)) =
      [("cluster_name", .text status.clusterName),
        ("error", (status.error.map .text).getD .null),
        ("is_leader", .bool status.isLeader),
        ("leader_id", (status.leader.map (fun leader => .nat leader.toNat)).getD .null),
        ("member_count", .nat status.memberCount),
        ("node_id", .nat status.node.toNat)] :=
  rfl

/-! ## What the fields say -/

section Optional

variable {α : Type} {tell : α → Value} {optional : Option α}

theorem optional_eq_null_iff (present : ∀ content, tell content ≠ .null) :
    (optional.map tell).getD .null = .null ↔ optional = none := by
  cases optional with
  | none => exact iff_of_true rfl rfl
  | some content => exact iff_of_false (present content) (Option.some_ne_none content)

theorem optional_eq_tell_iff (present : ∀ content, tell content ≠ .null)
    (injective : Function.Injective tell) {content : α} :
    (optional.map tell).getD .null = tell content ↔ optional = some content := by
  cases optional with
  | none => exact iff_of_false (present content).symm (Option.some_ne_none content).symm
  | some other =>
      rw [Option.map_some, Option.getD_some, injective.eq_iff, Option.some.injEq]

end Optional

theorem nat_toNat_injective :
    Function.Injective (fun leader : NodeId => (.nat leader.toNat : Value)) := by
  intro left right same
  have numbers : left.toNat = right.toNat := Int.ofNat.inj (Tree.int.inj same)
  exact NodeId.toNat_inj.mp numbers

/-- The object with the fields of a status says what the status says. -/
theorem saidBy_fields (status : Status) : status.SaidBy (.record (sortEntries status.fields)) := by
  have noLeaderIsNull : ∀ leader : NodeId, (.nat leader.toNat : Value) ≠ .null := by
    simp [Tree.nat]
  have noTextIsNull : ∀ text, (.text text : Value) ≠ .null := by
    simp
  have names : ["cluster_name", "error", "is_leader", "leader_id", "member_count", "node_id"].Perm
      ["cluster_name", "node_id", "leader_id", "is_leader", "member_count", "error"] := by
    decide
  rw [sortEntries_fields]
  exact {
    fields := ⟨_, rfl, names⟩
    clusterName := rfl
    node := rfl
    leader := fun _ =>
      Option.some_inj.trans (optional_eq_tell_iff noLeaderIsNull nat_toNat_injective)
    leaderless := Option.some_inj.trans (optional_eq_null_iff noLeaderIsNull)
    isLeader := rfl
    memberCount := rfl
    error := fun _ =>
      Option.some_inj.trans (optional_eq_tell_iff noTextIsNull fun _ _ => Tree.text.inj)
    errorless := Option.some_inj.trans (optional_eq_null_iff noTextIsNull) }

/-- Only one status is said by an object. -/
theorem SaidBy.unique {other : Status} {value : Value} (said : status.SaidBy value)
    (again : other.SaidBy value) : status = other := by
  have clusterName : status.clusterName = other.clusterName :=
    Tree.text.inj (Option.some.inj (said.clusterName.symm.trans again.clusterName))
  have node : status.node = other.node :=
    nat_toNat_injective (Option.some.inj (said.node.symm.trans again.node))
  have isLeader : status.isLeader = other.isLeader :=
    Tree.bool.inj (Option.some.inj (said.isLeader.symm.trans again.isLeader))
  have memberCount : status.memberCount = other.memberCount :=
    Int.ofNat.inj (Tree.int.inj (Option.some.inj (said.memberCount.symm.trans again.memberCount)))
  have leader : status.leader = other.leader := by
    cases named : other.leader with
    | none => exact said.leaderless.mp (again.leaderless.mpr named)
    | some leader => exact (said.leader leader).mp ((again.leader leader).mpr named)
  have error : status.error = other.error := by
    cases told : other.error with
    | none => exact said.errorless.mp (again.errorless.mpr told)
    | some text => exact (said.error text).mp ((again.error text).mpr told)
  cases status
  cases other
  simp only [Status.mk.injEq]
  exact ⟨clusterName, node, leader, isLeader, memberCount, error⟩

theorem toText_inj {left right : Status} (counted : left.memberCount < UInt64.size)
    (otherCounted : right.memberCount < UInt64.size) :
    left.toText = right.toText ↔ left = right := by
  constructor
  · intro same
    have read := left.ofText?_toText counted
    rw [same, right.ofText?_toText otherCounted, Option.some.injEq] at read
    exact left.saidBy_fields.unique (read ▸ right.saidBy_fields)
  · rintro rfl
    rfl

end Status

/-! ## The main statement -/

/--
A router always gives the text of its status, whatever the answer to its question
is.  The text is JSON and says what the status says, in six fields and no others;
so different statuses have different texts.  Members are counted by a 64-bit word.
-/
theorem Config.status_text_faithful {state : Type} (config : Config) (ask : Asker state)
    (unpaused : Nat) (current : state) (counted : config.members.length < UInt64.size) :
    (∃ status value,
      (config.consult ask unpaused .status current).1 = .status status ∧
      (config.consult ask unpaused .statusText current).1 = .text status.toText ∧
      Value.ofText? status.toText = some value ∧ status.SaidBy value) ∧
    ∀ left right : Status, left.memberCount < UInt64.size → right.memberCount < UInt64.size →
      (left.toText = right.toText ↔ left = right) := by
  have read := (config.status (ask current).1).ofText?_toText counted
  have said := (config.status (ask current).1).saidBy_fields
  refine ⟨⟨_, _, rfl, rfl, read, said⟩, ?_⟩
  intro left right leftCounted rightCounted
  exact Status.toText_inj leftCounted rightCounted

/-- A cluster whose name looks like a field, with the greatest identifier. -/
def Config.misleading : Config where
  node := .ofNat (UInt64.size - 1)
  clusterName := "\"leader_id\":7,\\\x00\n\u2028😀"
  members := []
  patience := .standard

/-- The wording of a fault that looks like further fields. -/
theorem Config.status_text_faithful_misleading :
    let ask : Asker Unit := fun _ => (.error (.backend "\",\"error\":null\x7d" []), [], ())
    misleading.members.length < UInt64.size ∧
      ∃ text value, (misleading.consult ask 0 .statusText ()).1 = .text text ∧
        Value.ofText? text = some value ∧
        value.get? "cluster_name" = some (.text misleading.clusterName) ∧
        value.get? "node_id" = some (.nat (UInt64.size - 1)) ∧
        value.get? "leader_id" = some .null ∧
        value.get? "error" = some (.text "Backend error: \",\"error\":null\x7d") := by
  intro ask
  have counted : misleading.members.length < UInt64.size := by decide
  obtain ⟨⟨status, value, seen, written, read, said⟩, -⟩ :=
    status_text_faithful misleading ask 0 () counted
  obtain rfl : misleading.status (ask ()).1 = status := Finding.status.inj seen
  exact ⟨counted, _, value, written, read, said.clusterName, said.node,
    said.leaderless.mpr rfl, (said.error _).mpr rfl⟩

end Leadership
