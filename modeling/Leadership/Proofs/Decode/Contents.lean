import Leadership.Proofs.Decode.Flaws

/-!
# What a tree says

A tree whose records are maps without repeated keys says a configuration field by
field, under the names of the fields.  What it says is stated here without the
readers: numbers and texts stand as they are, a span is as long as its two words
together, and a configuration without a patience has the standard one.

The main statement of this module is that a tree is read as a configuration
exactly if it says this configuration.
-/

namespace Leadership.Decode

variable {gap : Type}

/-! ## The length of a span -/

/-- A span written as whole seconds and further nanoseconds, by name or by place. -/
inductive Parts (whole further : Nat) : Tree gap → Prop where
  | named {map : List (String × Tree gap)}
      (same : map.Perm [("secs", .nat whole), ("nanos", .nat further)]) :
      Parts whole further (.record map)
  | placed : Parts whole further (.list [.nat whole, .nat further])

/-- The words of a span are put together wherever they stand. -/
theorem Parts.read {whole further : Nat} {tree : Tree gap} (parts : Parts whole further tree)
    (surplus : Surplus) (wholeFits : whole < UInt64.size) (furtherFits : further < UInt32.size) :
    span surplus tree = assembleSpan whole further := by
  have readsWhole : word UInt64.size .word64 (.nat whole : Tree gap) = .ok whole :=
    word_nat wholeFits .word64
  have readsFurther : nanoseconds (.nat further : Tree gap) = .ok further :=
    word_nat furtherFits .word32
  cases parts with
  | @named map same =>
      have isSeconds : ("secs", Kind.seconds) ∈ Kind.fields .span := by
        decide
      have isNanos : ("nanos", Kind.nanoseconds) ∈ Kind.fields .span := by
        decide
      have written : Checked surplus .span []
          [("secs", .nat whole), ("nanos", (.nat further : Tree gap))] := by
        rw [checked_known isSeconds, checked_known isNanos]
        exact ⟨by decide, ⟨whole, readsWhole⟩, by decide, ⟨further, readsFurther⟩,
          checked_nil surplus .span _⟩
      have checked : Checked surplus .span [] map := written.perm same.symm
      have foundWhole : map.lookup "secs" = some (.nat whole) := by
        rw [checked.lookup_eq_some_iff isSeconds, same.mem_iff]
        exact List.mem_cons_self
      have foundFurther : map.lookup "nanos" = some (.nat further) := by
        rw [checked.lookup_eq_some_iff isNanos, same.mem_iff]
        exact List.mem_cons_of_mem _ List.mem_cons_self
      rw [span_record checked, required_of_lookup foundWhole readsWhole, ok_bind,
        required_of_lookup foundFurther readsFurther, ok_bind]
  | placed =>
      have first : item .span 0 (word UInt64.size .word64)
          [.nat whole, (.nat further : Tree gap)] none = .ok whole := readsWhole
      have second : item .span 1 nanoseconds
          [.nat whole, (.nat further : Tree gap)] none = .ok further := readsFurther
      rw [Tree.list, span, first, ok_bind, second, ok_bind]
      cases assembleSpan whole further <;> rfl

theorem assembleSpan_of_lt {whole further : Nat}
    (fits : whole + further / secondLength < UInt64.size) :
    ∃ value, assembleSpan whole further = .ok value ∧
      value.nanoseconds = whole * secondLength + further := by
  cases parts : Span.ofParts? whole further with
  | none => exact absurd fits (Nat.not_lt.mpr (ofParts?_eq_none_iff.mp parts))
  | some value =>
      refine ⟨value, assembleSpan_of_some parts, ?_⟩
      rw [Span.ofParts?] at parts
      split_ifs at parts with small
      cases parts
      rfl

theorem assembleSpan_of_le {whole further : Nat}
    (long : UInt64.size ≤ whole + further / secondLength) :
    assembleSpan whole further = .error .spanOverflow := by
  rw [assembleSpan_eq]
  simp only [ofParts?_eq_none_iff.mpr long]

theorem nanoseconds_of_assembleSpan {whole further : Nat} {value : Span}
    (assembled : assembleSpan whole further = .ok value) :
    value.nanoseconds = whole * secondLength + further := by
  by_cases fits : whole + further / secondLength < UInt64.size
  · rcases assembleSpan_of_lt fits with ⟨other, same, length⟩
    rw [assembled] at same
    cases same
    exact length
  · rw [assembleSpan_of_le (Nat.not_lt.mp fits)] at assembled
    contradiction

/-! ## What is said -/

/-- A tree of two words, seconds and nanoseconds, that are together as long as a span. -/
def SaysSpan (tree : Tree gap) (span : Span) : Prop :=
  ∃ whole further, whole < UInt64.size ∧ further < UInt32.size ∧ Parts whole further tree ∧
    span.nanoseconds = whole * 1000000000 + further

/-- A tree with the spans of a patience under their names. -/
structure SaysPatience (tree : Tree gap) (patience : Patience) : Prop where
  timeout : ∃ part, tree.get? "timeout" = some part ∧ SaysSpan part patience.timeout
  pause : ∃ part, tree.get? "poll_interval" = some part ∧ SaysSpan part patience.pause

/-- A tree with what is known about a member under the names of its fields. -/
structure SaysMember (tree : Tree gap) (member : Member) : Prop where
  node : tree.get? "id" = some (.nat member.node.toNat)
  name : tree.get? "name" = some (.text member.name)
  endpoint : ∃ text, tree.get? "peer_address" = some (.text text) ∧
    Endpoint.ofText? text = some member.endpoint

/--
A tree with the parts of a configuration under their names.  Without a patience, a
wait lasts ten seconds with ten questions a second.
-/
structure SaysConfig (tree : Tree gap) (config : Config) : Prop where
  node : tree.get? "node_id" = some (.nat config.node.toNat)
  name : tree.get? "cluster_name" = some (.text config.clusterName)
  members : ∃ items, tree.get? "members" = some (.list items) ∧
    List.Forall₂ SaysMember items config.members
  patience : ∀ part, tree.get? "leader_wait" = some part → SaysPatience part config.patience
  standard : tree.get? "leader_wait" = none →
    config.patience.timeout.nanoseconds = 10 * 1000000000 ∧
      config.patience.pause.nanoseconds = 100 * 1000000

theorem eq_standard_iff {patience : Patience} :
    patience = .standard ↔
      patience.timeout.nanoseconds = 10 * 1000000000 ∧
        patience.pause.nanoseconds = 100 * 1000000 := by
  constructor
  · rintro rfl
    exact ⟨rfl, rfl⟩
  · rintro ⟨timeout, pause⟩
    have sameTimeout : patience.timeout = Patience.standard.timeout :=
      Span.nanoseconds_inj.mp timeout
    have samePause : patience.pause = Patience.standard.pause := Span.nanoseconds_inj.mp pause
    cases patience
    exact congrArg₂ Patience.mk sameTimeout samePause

/-! ## Scalars and fields -/

theorem nodeId_eq_ok_iff {tree : Tree gap} {node : NodeId} :
    nodeId tree = .ok node ↔ tree = .nat node.toNat := by
  constructor
  · intro reads
    cases outcome : word UInt64.size .word64 tree with
    | error mismatch =>
        rw [nodeId, outcome] at reads
        contradiction
    | ok number =>
        rw [nodeId, outcome] at reads
        cases reads
        rcases word_eq_ok_iff.mp outcome with ⟨rfl, small⟩
        rw [NodeId.toNat_ofNat small]
  · rintro rfl
    exact nodeId_encode node

theorem text_eq_ok_iff {tree : Tree gap} {value : String} :
    text tree = .ok value ↔ tree = .text value := by
  cases tree <;> simp [text]

theorem endpoint_eq_ok_iff {tree : Tree gap} {value : Endpoint} :
    endpoint tree = .ok value ↔
      ∃ text, tree = .text text ∧ Endpoint.ofText? text = some value := by
  cases tree with
  | text text =>
      rw [endpoint]
      cases found : Endpoint.ofText? text <;> simp [found]
  | _ => simp [endpoint]

theorem required_eq_ok_iff {α : Type} {name : String} {read : Tree gap → Decoded α}
    {map : List (String × Tree gap)} {value : α} :
    required name read map = .ok value ↔
      ∃ tree, map.lookup name = some tree ∧ read tree = .ok value := by
  rw [required]
  cases map.lookup name <;> simp

theorem mapM_eq_ok_iff {α : Type} {read : Tree gap → Decoded α} {items : List (Tree gap)}
    {values : List α} :
    items.mapM read = .ok values ↔
      List.Forall₂ (fun item value => read item = .ok value) items values := by
  induction items generalizing values with
  | nil =>
      rw [List.mapM_nil, List.forall₂_nil_left_iff]
      exact ⟨fun same => (Except.ok.inj same).symm, fun same => same ▸ rfl⟩
  | cons item items induction =>
      simp only [List.mapM_cons, bind_eq_ok_iff, induction, List.forall₂_cons_left_iff]
      constructor
      · rintro ⟨value, reads, others, readOthers, same⟩
        exact ⟨value, others, reads, readOthers, (Except.ok.inj same).symm⟩
      · rintro ⟨value, others, reads, readOthers, rfl⟩
        exact ⟨value, reads, others, readOthers, rfl⟩

/-- Relations that agree on the items of a list relate it to the same lists. -/
theorem forall₂_congr_of_mem {α β : Type} {first second : α → β → Prop} {items : List α}
    {values : List β} (same : ∀ item ∈ items, ∀ value, first item value ↔ second item value) :
    List.Forall₂ first items values ↔ List.Forall₂ second items values := by
  induction items generalizing values with
  | nil => simp only [List.forall₂_nil_left_iff]
  | cons item items induction =>
      rw [List.forall_mem_cons] at same
      simp only [List.forall₂_cons_left_iff, same.1, induction same.2]

/-! ## Records of readable fields -/

section Records

variable {surplus : Surplus} {kind : Kind} {map : List (String × Tree gap)}

/-- What is read from a map has passed the check. -/
theorem checked_of_read {value : kind.Value} (isRecord : kind.fields ≠ [])
    (reads : kind.read surplus (.record map) = .ok value) : Checked surplus kind [] map := by
  cases outcome : kind.entries surplus [] map with
  | ok done => exact entries_eq_ok_iff.mp outcome
  | error mismatch =>
      rw [read_record_of_error isRecord outcome] at reads
      contradiction

/-- A map that may have other entries passes the check if there is a value for each field. -/
theorem checked_of_readings (lenient : kind ≠ .span) (distinct : (map.map Prod.fst).Nodup)
    (reads : ∀ field ∈ kind.fields, ∃ value, reading surplus field.2 field.1 map = .ok value) :
    Checked surplus kind [] map where
  once := by
    intro name inner _
    simpa using List.nodup_iff_count_le_one.mp distinct name
  reads := by
    intro name inner tree isField isEntry
    have once : (map.map Prod.fst).count name ≤ 1 := List.nodup_iff_count_le_one.mp distinct name
    have found : map.lookup name = some tree := (lookup_eq_some_iff_mem once).mpr isEntry
    rcases reads (name, inner) isField with ⟨value, same⟩
    rw [reading, found] at same
    exact ⟨value, same⟩
  known := by
    intro strict
    simp [Kind.strict, lenient] at strict

theorem patience_record_iff (distinct : (map.map Prod.fst).Nodup) {value : Patience} :
    patience surplus (.record map) = .ok value ↔
      required "timeout" (span surplus) map = .ok value.timeout ∧
        required "poll_interval" (span surplus) map = .ok value.pause := by
  constructor
  · intro reads
    have checked : Checked surplus .patience [] map := checked_of_read (by decide) reads
    rw [patience_record checked] at reads
    simp only [bind_eq_ok_iff] at reads
    rcases reads with ⟨timeout, readsTimeout, pause, readsPause, same⟩
    cases same
    exact ⟨readsTimeout, readsPause⟩
  · rintro ⟨timeout, pause⟩
    have checked : Checked surplus .patience [] map := by
      apply checked_of_readings (by decide) distinct
      exact List.forall_mem_cons.mpr ⟨⟨_, timeout⟩, List.forall_mem_singleton.mpr ⟨_, pause⟩⟩
    rw [patience_record checked, timeout, ok_bind, pause]
    rfl

theorem member_record_iff (distinct : (map.map Prod.fst).Nodup) {value : Member} :
    member surplus (.record map) = .ok value ↔
      required "id" nodeId map = .ok value.node ∧ required "name" text map = .ok value.name ∧
        required "peer_address" endpoint map = .ok value.endpoint := by
  constructor
  · intro reads
    have checked : Checked surplus .member [] map := checked_of_read (by decide) reads
    rw [member_record checked] at reads
    simp only [bind_eq_ok_iff] at reads
    rcases reads with ⟨node, readsNode, name, readsName, address, readsAddress, same⟩
    cases same
    exact ⟨readsNode, readsName, readsAddress⟩
  · rintro ⟨node, name, address⟩
    have checked : Checked surplus .member [] map := by
      apply checked_of_readings (by decide) distinct
      exact List.forall_mem_cons.mpr ⟨⟨_, node⟩,
        List.forall_mem_cons.mpr ⟨⟨_, name⟩, List.forall_mem_singleton.mpr ⟨_, address⟩⟩⟩
    rw [member_record checked, node, ok_bind, name, ok_bind, address]
    rfl

theorem config_record_iff (distinct : (map.map Prod.fst).Nodup) {value : Config} :
    config surplus (.record map) = .ok value ↔
      required "node_id" nodeId map = .ok value.node ∧
        required "cluster_name" text map = .ok value.clusterName ∧
        required "members" (members surplus) map = .ok value.members ∧
        reading surplus .patience "leader_wait" map = .ok value.patience := by
  constructor
  · intro reads
    have checked : Checked surplus .config [] map := checked_of_read (by decide) reads
    rw [config_record checked] at reads
    rcases bind_eq_ok_iff.mp reads with ⟨node, readsNode, reads⟩
    rcases bind_eq_ok_iff.mp reads with ⟨name, readsName, reads⟩
    rcases bind_eq_ok_iff.mp reads with ⟨listed, readsListed, reads⟩
    rcases bind_eq_ok_iff.mp reads with ⟨waiting, readsWaiting, same⟩
    cases same
    exact ⟨readsNode, readsName, readsListed, readsWaiting⟩
  · rintro ⟨node, name, listed, waiting⟩
    have checked : Checked surplus .config [] map := by
      apply checked_of_readings (by decide) distinct
      exact List.forall_mem_cons.mpr ⟨⟨_, node⟩, List.forall_mem_cons.mpr ⟨⟨_, name⟩,
        List.forall_mem_cons.mpr ⟨⟨_, listed⟩, List.forall_mem_singleton.mpr ⟨_, waiting⟩⟩⟩⟩
    rw [config_record checked, node, ok_bind, name, ok_bind, listed, ok_bind, waiting]
    rfl

end Records

/-! ## Reading what is said -/

section Reading

variable {surplus : Surplus} {kind : Kind} {tree : Tree gap} {name : String}
  {map : List (String × Tree gap)}

theorem read_ne_ok_of_not_opens (isRecord : kind.fields ≠ []) (closed : kind.opens tree = false)
    (value : kind.Value) : kind.read surplus tree ≠ .ok value := by
  intro reads
  cases tree with
  | map => simp [Kind.opens, isRecord] at closed
  | seq => simp [Kind.opens, isRecord] at closed
  | _ => cases kind <;> contradiction

theorem get?_ne_some_of_not_opens (isRecord : kind.fields ≠ []) (closed : kind.opens tree = false)
    (part : Tree gap) : tree.get? name ≠ some part := by
  intro found
  cases tree with
  | map => simp [Kind.opens, isRecord] at closed
  | _ => contradiction

theorem required_nodeId_iff {node : NodeId} :
    required name nodeId map = .ok node ↔ map.lookup name = some (.nat node.toNat) := by
  simp only [required_eq_ok_iff, nodeId_eq_ok_iff, exists_eq_right]

theorem required_text_iff {value : String} :
    required name text map = .ok value ↔ map.lookup name = some (.text value) := by
  simp only [required_eq_ok_iff, text_eq_ok_iff, exists_eq_right]

theorem required_endpoint_iff {value : Endpoint} :
    required name endpoint map = .ok value ↔
      ∃ text, map.lookup name = some (.text text) ∧ Endpoint.ofText? text = some value := by
  simp only [required_eq_ok_iff, endpoint_eq_ok_iff]
  constructor
  · rintro ⟨tree, found, text, rfl, stands⟩
    exact ⟨text, found, stands⟩
  · rintro ⟨text, found, stands⟩
    exact ⟨.text text, found, text, rfl, stands⟩

/-- A span that is said is not too long, so that it is read. -/
theorem SaysSpan.read {value : Span} (said : SaysSpan tree value) (surplus : Surplus) :
    span surplus tree = .ok value := by
  rcases said with ⟨whole, further, wholeFits, furtherFits, parts, length⟩
  have fits : whole + further / secondLength < UInt64.size := by
    have bound := value.inRange
    rw [length] at bound
    simp only [spanLimit, secondLength] at bound ⊢
    omega
  rcases assembleSpan_of_lt fits with ⟨other, assembled, otherLength⟩
  have same : other = value := Span.nanoseconds_inj.mp (otherLength.trans length.symm)
  rw [parts.read surplus wholeFits furtherFits, assembled, same]

/-- A map of the two words of a span and nothing else. -/
theorem parts_of_lookups {whole further : Nat} (distinct : (map.map Prod.fst).Nodup)
    (known : ∀ entry ∈ map, entry.1 = "secs" ∨ entry.1 = "nanos")
    (foundWhole : map.lookup "secs" = some (.nat whole))
    (foundFurther : map.lookup "nanos" = some (.nat further)) :
    Parts whole further (.record map) := by
  have isEntry : ∀ key part, map.lookup key = some part ↔ (key, part) ∈ map :=
    fun key part => lookup_eq_some_iff_mem (List.nodup_iff_count_le_one.mp distinct key)
  -- Neither list has an entry twice, so it is enough that they have the same ones.
  apply Parts.named
  apply (List.perm_ext_iff_of_nodup distinct.of_map (by simp)).mpr
  rintro ⟨key, part⟩
  simp only [List.mem_cons, Prod.mk.injEq, List.not_mem_nil, or_false]
  constructor
  · intro here
    have found : map.lookup key = some part := (isEntry key part).mpr here
    rcases known (key, part) here with rfl | rfl
    · exact .inl ⟨rfl, Option.some.inj (found.symm.trans foundWhole)⟩
    · exact .inr ⟨rfl, Option.some.inj (found.symm.trans foundFurther)⟩
  · rintro (⟨rfl, rfl⟩ | ⟨rfl, rfl⟩)
    · exact (isEntry _ _).mp foundWhole
    · exact (isEntry _ _).mp foundFurther

theorem Plain.span_iff (plain : Plain .span tree) {value : Span} :
    span surplus tree = .ok value ↔ SaysSpan tree value := by
  refine ⟨fun reads => ?_, fun said => said.read surplus⟩
  cases plain with
  | @record _ map _ distinct _ =>
      have checked : Checked surplus .span [] map := checked_of_read (by decide) reads
      have known : ∀ entry ∈ map, entry.1 = "secs" ∨ entry.1 = "nanos" := by
        simpa [Kind.fields] using checked.known rfl
      rw [span_record checked] at reads
      simp only [bind_eq_ok_iff, required_eq_ok_iff] at reads
      rcases reads with ⟨whole, ⟨first, foundWhole, readsWhole⟩, further,
        ⟨second, foundFurther, readsFurther⟩, assembled⟩
      rcases word_eq_ok_iff.mp readsWhole with ⟨rfl, wholeFits⟩
      rcases word_eq_ok_iff.mp readsFurther with ⟨rfl, furtherFits⟩
      exact ⟨whole, further, wholeFits, furtherFits,
        parts_of_lookups distinct known foundWhole foundFurther,
        nanoseconds_of_assembleSpan assembled⟩
  | whole closed => exact absurd reads (read_ne_ok_of_not_opens (by decide) closed value)

theorem required_span_iff (plain : ∀ part, map.lookup name = some part → Plain .span part)
    {value : Span} :
    required name (span surplus) map = .ok value ↔
      ∃ part, map.lookup name = some part ∧ SaysSpan part value := by
  rw [required_eq_ok_iff]
  exact exists_congr fun part => and_congr_right fun found => (plain part found).span_iff

theorem Plain.patience_iff (plain : Plain .patience tree) {value : Patience} :
    patience surplus tree = .ok value ↔ SaysPatience tree value := by
  cases plain with
  | @record _ map _ distinct inside =>
      have isSpan : ∀ name, (name, Kind.span) ∈ Kind.fields .patience → ∀ part,
          map.lookup name = some part → Plain .span part :=
        fun name isField part found => inside name _ part isField (mem_of_lookup_eq_some found)
      rw [patience_record_iff distinct, required_span_iff (isSpan "timeout" (by decide)),
        required_span_iff (isSpan "poll_interval" (by decide))]
      constructor
      · rintro ⟨timeout, pause⟩
        exact ⟨timeout, pause⟩
      · intro said
        exact ⟨said.timeout, said.pause⟩
  | whole closed =>
      refine iff_of_false (read_ne_ok_of_not_opens (by decide) closed value) ?_
      rintro ⟨⟨part, found, -⟩, -⟩
      exact get?_ne_some_of_not_opens (by decide) closed part found

theorem Plain.member_iff (plain : Plain .member tree) {value : Member} :
    member surplus tree = .ok value ↔ SaysMember tree value := by
  cases plain with
  | @record _ map _ distinct inside =>
      rw [member_record_iff distinct, required_nodeId_iff, required_text_iff,
        required_endpoint_iff]
      constructor
      · rintro ⟨node, name, address⟩
        exact ⟨node, name, address⟩
      · intro said
        exact ⟨said.node, said.name, said.endpoint⟩
  | whole closed =>
      refine iff_of_false (read_ne_ok_of_not_opens (by decide) closed value) ?_
      intro said
      exact get?_ne_some_of_not_opens (by decide) closed _ said.node

theorem Plain.members_iff (plain : Plain .members tree) {values : List Member} :
    members surplus tree = .ok values ↔
      ∃ items, tree = .list items ∧ List.Forall₂ SaysMember items values := by
  cases plain with
  | record isRecord => contradiction
  | @items items inside =>
      have each : members surplus (.list items) = .ok values ↔
          items.mapM (member surplus) = .ok values := by
        rw [Tree.list, members]
        cases items.mapM (member surplus) <;> rfl
      have alike : ∀ item ∈ items, ∀ value,
          member surplus item = .ok value ↔ SaysMember item value :=
        fun item isItem value => (inside item isItem).member_iff
      rw [each, mapM_eq_ok_iff, forall₂_congr_of_mem alike]
      constructor
      · intro said
        exact ⟨items, rfl, said⟩
      · rintro ⟨others, same, said⟩
        cases same
        exact said
  | whole closed =>
      cases tree with
      | seq => contradiction
      | _ => simp [members, Tree.list]

theorem required_members_iff (plain : ∀ part, map.lookup name = some part → Plain .members part)
    {values : List Member} :
    required name (members surplus) map = .ok values ↔
      ∃ items, map.lookup name = some (.list items) ∧ List.Forall₂ SaysMember items values := by
  rw [required_eq_ok_iff]
  constructor
  · rintro ⟨part, found, reads⟩
    rcases (plain part found).members_iff.mp reads with ⟨items, rfl, said⟩
    exact ⟨items, found, said⟩
  · rintro ⟨items, found, said⟩
    exact ⟨.list items, found, (plain _ found).members_iff.mpr ⟨items, rfl, said⟩⟩

/-- Where no patience is written, the standard one is meant. -/
theorem reading_patience_iff
    (plain : ∀ part, map.lookup name = some part → Plain .patience part) {value : Patience} :
    reading surplus .patience name map = .ok value ↔
      (∀ part, map.lookup name = some part → SaysPatience part value) ∧
        (map.lookup name = none →
          value.timeout.nanoseconds = 10 * 1000000000 ∧
            value.pause.nanoseconds = 100 * 1000000) := by
  rw [reading, ← eq_standard_iff]
  cases found : map.lookup name with
  | none =>
      constructor
      · intro reads
        exact ⟨by simp, fun _ => (Except.ok.inj reads).symm⟩
      · rintro ⟨-, standard⟩
        exact congrArg Except.ok (standard rfl).symm
  | some part =>
      have isPatience := plain part found
      constructor
      · intro reads
        refine ⟨?_, by simp⟩
        rintro _ ⟨⟩
        exact isPatience.patience_iff.mp reads
      · rintro ⟨said, -⟩
        exact isPatience.patience_iff.mpr (said part rfl)

/-- A tree is read as a configuration exactly if it says this configuration. -/
theorem Plain.config_iff (plain : Plain .config tree) {value : Config} :
    config surplus tree = .ok value ↔ SaysConfig tree value := by
  cases plain with
  | @record _ map _ distinct inside =>
      have isMembers : ∀ part, map.lookup "members" = some part → Plain .members part :=
        fun part found => inside "members" _ part (by decide) (mem_of_lookup_eq_some found)
      have isPatience : ∀ part, map.lookup "leader_wait" = some part → Plain .patience part :=
        fun part found => inside "leader_wait" _ part (by decide) (mem_of_lookup_eq_some found)
      rw [config_record_iff distinct, required_nodeId_iff, required_text_iff,
        required_members_iff isMembers, reading_patience_iff isPatience]
      constructor
      · rintro ⟨node, name, members, patience, standard⟩
        exact ⟨node, name, members, patience, standard⟩
      · intro said
        exact ⟨said.node, said.name, said.members, said.patience, said.standard⟩
  | whole closed =>
      refine iff_of_false (read_ne_ok_of_not_opens (by decide) closed value) ?_
      intro said
      exact get?_ne_some_of_not_opens (by decide) closed _ said.node

end Reading

end Leadership.Decode
