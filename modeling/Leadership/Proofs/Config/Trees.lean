import Leadership.Config.Exchange
import Leadership.Proofs.Endpoint.RoundTrip

/-!
# Trees that are written and read

The tree of a configuration, and of each of its parts, is read back, whatever is
made of surplus items.  All numbers of a configuration fit the words they are
read as, and its records hold each field once.
-/

namespace Leadership

/-- Options can be compared where faults cannot. -/
theorem eq_ok_of_toOption {ε α : Type} {outcome : Except ε α} {value : α}
    (found : outcome.toOption = some value) : outcome = .ok value := by
  cases outcome with
  | error cause => contradiction
  | ok other => exact congrArg Except.ok (Option.some.inj found)

namespace Decode

variable {gap : Type}

/-! ## Scalars -/

theorem word_nat {size number : Nat} (small : number < size) (expected : Expected) :
    word size expected (.nat number : Tree gap) = .ok number := by
  have inRange : (0 : Int) ≤ number ∧ (number : Int) < size := by
    constructor
    · exact Int.natCast_nonneg number
    · exact_mod_cast small
  simp [word, Tree.nat, inRange]

theorem nodeId_encode (node : NodeId) :
    nodeId (Encode.nodeId node : Tree gap) = .ok node := by
  have reads : word UInt64.size .word64 (.nat node.toNat : Tree gap) = .ok node.toNat :=
    word_nat node.toNat_lt .word64
  rw [nodeId, Encode.nodeId, reads, Except.map, NodeId.ofNat_toNat]

theorem endpoint_text (value : Endpoint) :
    endpoint (.text value.text : Tree gap) = .ok value := by
  rw [endpoint, Endpoint.ofText?_text]

theorem seconds_nat (value : Span) :
    word UInt64.size .word64 (.nat value.seconds : Tree gap) = .ok value.seconds :=
  word_nat value.seconds_lt .word64

theorem nanoseconds_nat (value : Span) :
    nanoseconds (.nat value.subsecond : Tree gap) = .ok value.subsecond := by
  have small : secondLength < UInt32.size := by
    decide
  exact word_nat (Nat.lt_trans value.subsecond_lt small) .word32

-- An equation between functions: at an argument, checking it would count up to the limit of spans.
theorem assembleSpan_eq :
    assembleSpan = fun seconds nanoseconds =>
      match Span.ofParts? seconds nanoseconds with
      | some span => .ok span
      | none => .error .spanOverflow :=
  rfl

theorem assembleSpan_of_some {seconds nanoseconds : Nat} {value : Span}
    (fits : Span.ofParts? seconds nanoseconds = some value) :
    assembleSpan seconds nanoseconds = .ok value := by
  rw [assembleSpan_eq]
  simp only [fits]

theorem ok_bind {α β : Type} (value : α) (next : α → Decoded β) :
    (Except.ok value >>= next) = next value :=
  rfl

theorem bind_eq_ok_iff {α β : Type} {outcome : Decoded α} {next : α → Decoded β} {result : β} :
    outcome >>= next = .ok result ↔ ∃ value, outcome = .ok value ∧ next value = .ok result := by
  cases outcome with
  | error mismatch => simp [bind, Except.bind]
  | ok value => simp [bind, Except.bind]

/-! ## Fields -/

theorem Field.check_of {α : Type} {read : Tree gap → Decoded α} {tree : Tree gap} {value : α}
    (reads : read tree = .ok value) (name : String) :
    (Field.of name read).check tree = .ok () := by
  simp only [Field.of, reads, Except.map]

theorem entries_cons {fields : List (Field gap)} {field : Field gap} {key : String}
    {seen : List String} {tree : Tree gap}
    (found : fields.find? (fun field => field.name == key) = some field)
    (fresh : key ∉ seen) (checks : field.check tree = .ok ()) (strict : Bool)
    (rest : List (String × Tree gap)) :
    entries fields strict seen ((key, tree) :: rest) =
      entries fields strict (key :: seen) rest := by
  rw [entries, found]
  simp only [fresh, if_false, checks]
  rfl

theorem required_of_lookup {α : Type} {name : String} {read : Tree gap → Decoded α}
    {entries : List (String × Tree gap)} {tree : Tree gap} {value : α}
    (found : entries.lookup name = some tree) (reads : read tree = .ok value) :
    required name read entries = .ok value := by
  rw [required, found]
  exact reads

/-! ## Records -/

theorem span_encode (surplus : Surplus) (value : Span) :
    span surplus (Encode.span value : Tree gap) = .ok value := by
  have checked : entries spanFields true []
      [("secs", .nat value.seconds), ("nanos", (.nat value.subsecond : Tree gap))] = .ok () := by
    rw [entries_cons rfl (by decide) (Field.check_of (seconds_nat value) "secs"),
      entries_cons rfl (by decide) (Field.check_of (nanoseconds_nat value) "nanos"), entries]
  have assembled : assembleSpan value.seconds value.subsecond = .ok value :=
    assembleSpan_of_some value.ofParts?_parts
  rw [Encode.span, Tree.record, span, checked, required_of_lookup rfl (seconds_nat value),
    required_of_lookup rfl (nanoseconds_nat value), ok_bind, unbroken, ok_bind, ok_bind, ok_bind,
    assembled]

theorem patience_encode (surplus : Surplus) (value : Patience) :
    patience surplus (Encode.patience value : Tree gap) = .ok value := by
  have timeout : span surplus (Encode.span value.timeout : Tree gap) = .ok value.timeout :=
    span_encode surplus value.timeout
  have pause : span surplus (Encode.span value.pause : Tree gap) = .ok value.pause :=
    span_encode surplus value.pause
  have checked : entries (patienceFields surplus) false []
      [("timeout", Encode.span value.timeout),
        ("poll_interval", (Encode.span value.pause : Tree gap))] = .ok () := by
    rw [entries_cons rfl (by decide) (Field.check_of timeout "timeout"),
      entries_cons rfl (by decide) (Field.check_of pause "poll_interval"), entries]
  rw [Encode.patience, Tree.record, patience, checked, required_of_lookup rfl timeout,
    required_of_lookup rfl pause]
  rfl

theorem member_encode (surplus : Surplus) (value : Member) :
    member surplus (Encode.member value : Tree gap) = .ok value := by
  have node : nodeId (Encode.nodeId value.node : Tree gap) = .ok value.node :=
    nodeId_encode value.node
  have name : text (.text value.name : Tree gap) = .ok value.name := rfl
  have address : endpoint (.text value.endpoint.text : Tree gap) = .ok value.endpoint :=
    endpoint_text value.endpoint
  have checked : entries memberFields false []
      [("id", Encode.nodeId value.node), ("name", .text value.name),
        ("peer_address", (.text value.endpoint.text : Tree gap))] = .ok () := by
    rw [entries_cons rfl (by decide) (Field.check_of node "id"),
      entries_cons rfl (by decide) (Field.check_of name "name"),
      entries_cons rfl (by decide) (Field.check_of address "peer_address"), entries]
  rw [Encode.member, Tree.record, member, checked, required_of_lookup rfl node,
    required_of_lookup rfl name, required_of_lookup rfl address]
  rfl

theorem members_encode (surplus : Surplus) (values : List Member) :
    members surplus (.list (values.map Encode.member) : Tree gap) = .ok values := by
  have items : (values.map Encode.member).mapM (member surplus : Tree gap → Decoded Member) =
      .ok values := by
    induction values with
    | nil => rfl
    | cons value values induction =>
        rw [List.map_cons, List.mapM_cons, member_encode, induction]
        rfl
  rw [Tree.list, members, items]
  rfl

/-- Every configuration is read back from its tree. -/
theorem config_encode (surplus : Surplus) (value : Config) :
    config surplus (Encode.config value : Tree gap) = .ok value := by
  have node : nodeId (Encode.nodeId value.node : Tree gap) = .ok value.node :=
    nodeId_encode value.node
  have name : text (.text value.clusterName : Tree gap) = .ok value.clusterName := rfl
  have all : members surplus (.list (value.members.map Encode.member) : Tree gap) =
      .ok value.members :=
    members_encode surplus value.members
  have waiting : patience surplus (Encode.patience value.patience : Tree gap) =
      .ok value.patience :=
    patience_encode surplus value.patience
  have checked : entries (configFields surplus) false []
      [("node_id", Encode.nodeId value.node), ("cluster_name", .text value.clusterName),
        ("members", .list (value.members.map Encode.member)),
        ("leader_wait", (Encode.patience value.patience : Tree gap))] = .ok () := by
    rw [entries_cons rfl (by decide) (Field.check_of node "node_id"),
      entries_cons rfl (by decide) (Field.check_of name "cluster_name"),
      entries_cons rfl (by decide) (Field.check_of all "members"),
      entries_cons rfl (by decide) (Field.check_of waiting "leader_wait"), entries]
  have lookup : [("node_id", Encode.nodeId value.node), ("cluster_name", .text value.clusterName),
      ("members", .list (value.members.map Encode.member)),
      ("leader_wait", (Encode.patience value.patience : Tree gap))].lookup "leader_wait" =
        some (Encode.patience value.patience) :=
    rfl
  rw [Encode.config, Tree.record, config, checked, required_of_lookup rfl node,
    required_of_lookup rfl name, required_of_lookup rfl all, lookup]
  simp only [waiting]
  rfl

end Decode

end Leadership
