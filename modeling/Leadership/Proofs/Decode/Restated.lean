import Leadership.Config.File
import Leadership.Proofs.Decode.Contents
import Mathlib.Logic.Relation

/-!
# Trees that say the same

A tree can be changed in many ways without saying anything else: the entries of a
map can be reordered, entries that are no fields can be put in or left out
wherever they are allowed, a record can be written as the sequence of its fields,
and the standard patience need not be written at all.  Each of these is a step,
and whatever is read from a tree is read after any number of steps.

The main statement joins this with what a tree says and with its flaws: which
trees are read and as what, which mismatch is reported of the others, and how long
a span is.
-/

namespace Leadership.Decode

variable {gap : Type}

/-! ## Steps -/

/-- One change of a tree of a kind after which it says the same. -/
inductive Restated (surplus : Surplus) : Kind → Tree gap → Tree gap → Prop where
  /-- The entries of a record in another order. -/
  | reordered {kind : Kind} {map other : List (String × Tree gap)} (isRecord : kind.fields ≠ [])
      (same : map.Perm other) : Restated surplus kind (.record map) (.record other)
  /-- An entry that is no field, where such entries are passed over. -/
  | added {kind : Kind} {before behind : List (String × Tree gap)} {key : String}
      {tree : Tree gap} (isRecord : kind.fields ≠ []) (lenient : kind ≠ .span)
      (unknown : key ∉ kind.fields.map Prod.fst) :
      Restated surplus kind (.record (before ++ behind)) (.record (before ++ (key, tree) :: behind))
  | removed {kind : Kind} {before behind : List (String × Tree gap)} {key : String}
      {tree : Tree gap} (isRecord : kind.fields ≠ []) (lenient : kind ≠ .span)
      (unknown : key ∉ kind.fields.map Prod.fst) :
      Restated surplus kind (.record (before ++ (key, tree) :: behind)) (.record (before ++ behind))
  /-- A record as the sequence of its fields in their declared order. -/
  | positional {kind : Kind} {map : List (String × Tree gap)} {items : List (Tree gap)}
      (isRecord : kind.fields ≠ [])
      (placed : List.Forall₂ (fun field item => (field.1, item) ∈ map) kind.fields items) :
      Restated surplus kind (.record map) (.list items)
  /-- A configuration without its patience, if that is the standard one. -/
  | unwaited {before behind : List (String × Tree gap)} {tree : Tree gap}
      (standard : patience surplus tree = .ok .standard) :
      Restated surplus .config (.record (before ++ ("leader_wait", tree) :: behind))
        (.record (before ++ behind))
  /-- A change inside the value of a field. -/
  | inField {kind inner : Kind} {before behind : List (String × Tree gap)} {name : String}
      {tree other : Tree gap} (isField : (name, inner) ∈ kind.fields)
      (changed : Restated surplus inner tree other) :
      Restated surplus kind (.record (before ++ (name, tree) :: behind))
        (.record (before ++ (name, other) :: behind))
  /-- A change inside a member. -/
  | inMember {before behind : List (Tree gap)} {tree other : Tree gap}
      (changed : Restated surplus .member tree other) :
      Restated surplus .members (.list (before ++ tree :: behind))
        (.list (before ++ other :: behind))

/-! ## Records that say the same -/

section Records

variable {surplus : Surplus} {kind : Kind} {map other : List (String × Tree gap)}

/-- Maps that pass the check and have the same for each field say the same. -/
theorem read_record_congr (isRecord : kind.fields ≠ []) (checked : Checked surplus kind [] map)
    (checkedOther : Checked surplus kind [] other)
    (same : ∀ name inner, (name, inner) ∈ kind.fields →
      reading surplus inner name map = reading surplus inner name other) :
    kind.read surplus (.record map) = kind.read surplus (.record other) := by
  -- Each of the four records has a reader of its own, which looks up its own fields.
  cases kind with
  | span =>
      have seconds : required "secs" (word UInt64.size .word64) map =
          required "secs" (word UInt64.size .word64) other :=
        same "secs" .seconds (by decide)
      have nanos : required "nanos" nanoseconds map = required "nanos" nanoseconds other :=
        same "nanos" .nanoseconds (by decide)
      show span surplus (.record map) = span surplus (.record other)
      rw [span_record checked, span_record checkedOther, seconds, nanos]
  | patience =>
      have timeout : required "timeout" (span surplus) map =
          required "timeout" (span surplus) other :=
        same "timeout" .span (by decide)
      have pause : required "poll_interval" (span surplus) map =
          required "poll_interval" (span surplus) other :=
        same "poll_interval" .span (by decide)
      show patience surplus (.record map) = patience surplus (.record other)
      rw [patience_record checked, patience_record checkedOther, timeout, pause]
  | member =>
      have node : required "id" nodeId map = required "id" nodeId other :=
        same "id" .node (by decide)
      have name : required "name" text map = required "name" text other :=
        same "name" .text (by decide)
      have address : required "peer_address" endpoint map =
          required "peer_address" endpoint other :=
        same "peer_address" .endpoint (by decide)
      show member surplus (.record map) = member surplus (.record other)
      rw [member_record checked, member_record checkedOther, node, name, address]
  | config =>
      have node : required "node_id" nodeId map = required "node_id" nodeId other :=
        same "node_id" .node (by decide)
      have name : required "cluster_name" text map = required "cluster_name" text other :=
        same "cluster_name" .text (by decide)
      have listed : required "members" (members surplus) map =
          required "members" (members surplus) other :=
        same "members" .members (by decide)
      have waiting : reading surplus .patience "leader_wait" map =
          reading surplus .patience "leader_wait" other :=
        same "leader_wait" .patience (by decide)
      show config surplus (.record map) = config surplus (.record other)
      rw [config_record checked, config_record checkedOther, node, name, listed, waiting]
  | _ => contradiction

/-- A field occurs once in a map that is read, so it is found in any order of the entries. -/
theorem read_perm {value : kind.Value} (isRecord : kind.fields ≠ [])
    (reads : kind.read surplus (.record map) = .ok value) (reordered : map.Perm other) :
    kind.read surplus (.record other) = .ok value := by
  have checked := checked_of_read isRecord reads
  rw [← reads]
  apply read_record_congr isRecord (checked.perm reordered) checked
  intro name inner isField
  have found : other.lookup name = map.lookup name := by
    ext tree
    rw [(checked.perm reordered).lookup_eq_some_iff isField, checked.lookup_eq_some_iff isField,
      reordered.mem_iff]
  rw [reading, reading, found]

/-- An entry may as well stand first. -/
theorem read_middle {value : kind.Value} (isRecord : kind.fields ≠ [])
    (before behind : List (String × Tree gap)) (entry : String × Tree gap) :
    kind.read surplus (.record (before ++ entry :: behind)) = .ok value ↔
      kind.read surplus (.record (entry :: (before ++ behind))) = .ok value := by
  constructor
  · intro reads
    exact read_perm isRecord reads List.perm_middle
  · intro reads
    exact read_perm isRecord reads List.perm_middle.symm

theorem reading_cons_of_ne {inner : Kind} {key name : String} (tree : Tree gap)
    (different : name ≠ key) :
    reading surplus inner name ((key, tree) :: map) = reading surplus inner name map := by
  have skipped : (name == key) = false := beq_eq_false_iff_ne.mpr different
  rw [reading, List.lookup_cons, skipped]
  rfl

theorem reading_cons_self {inner : Kind} {name : String} (tree : Tree gap) :
    reading surplus inner name ((name, tree) :: map) = inner.read surplus tree := by
  rw [reading, List.lookup_cons, beq_self_eq_true]

/-- An entry that is no field says nothing, where it is allowed. -/
theorem read_unknown {value : kind.Value} {key : String} (isRecord : kind.fields ≠ [])
    (lenient : kind ≠ .span) (unknown : key ∉ kind.fields.map Prod.fst) (tree : Tree gap) :
    kind.read surplus (.record ((key, tree) :: map)) = .ok value ↔
      kind.read surplus (.record map) = .ok value := by
  have loose : ¬kind.strict := by
    simpa [Kind.strict] using lenient
  have skips : Checked surplus kind [] ((key, tree) :: map) ↔ Checked surplus kind [] map := by
    rw [checked_unknown unknown]
    exact and_iff_right loose
  have same : ∀ name inner, (name, inner) ∈ kind.fields →
      reading surplus inner name ((key, tree) :: map) = reading surplus inner name map := by
    intro name inner isField
    apply reading_cons_of_ne
    rintro rfl
    exact unknown (List.mem_map_of_mem isField)
  constructor
  · intro reads
    have checked := checked_of_read isRecord reads
    rwa [read_record_congr isRecord checked (skips.mp checked) same] at reads
  · intro reads
    have checked := checked_of_read isRecord reads
    rwa [read_record_congr isRecord (skips.mpr checked) checked same]

/-- A field may have another value that says the same. -/
theorem read_field {inner : Kind} {name : String} {tree restated : Tree gap} {value : kind.Value}
    (isField : (name, inner) ∈ kind.fields)
    (keeps : ∀ said, inner.read surplus tree = .ok said → inner.read surplus restated = .ok said)
    (reads : kind.read surplus (.record ((name, tree) :: map)) = .ok value) :
    kind.read surplus (.record ((name, restated) :: map)) = .ok value := by
  have isRecord : kind.fields ≠ [] := List.ne_nil_of_mem isField
  have checked := checked_of_read isRecord reads
  rcases (checked_known isField).mp checked with ⟨fresh, ⟨said, first⟩, behind⟩
  have second : inner.read surplus restated = .ok said := keeps said first
  -- Only the field itself can tell the two maps apart, and it was read from both.
  have checkedOther : Checked surplus kind [] ((name, restated) :: map) :=
    (checked_known isField).mpr ⟨fresh, ⟨said, second⟩, behind⟩
  rw [← reads]
  apply read_record_congr isRecord checkedOther checked
  intro field other isOther
  by_cases same : field = name
  · subst same
    have sameKind : other = inner :=
      Option.some.inj ((Kind.lookup_fields_iff.mpr isOther).symm.trans
        (Kind.lookup_fields_iff.mpr isField))
    subst sameKind
    rw [reading_cons_self, reading_cons_self, first, second]
  · rw [reading_cons_of_ne _ same, reading_cons_of_ne _ same]

/-- The standard patience is what a configuration has without one. -/
theorem read_unwaited {tree : Tree gap} {value : Config}
    (standard : patience surplus tree = .ok .standard)
    (reads : config surplus (.record (("leader_wait", tree) :: map)) = .ok value) :
    config surplus (.record map) = .ok value := by
  have isRecord : Kind.fields .config ≠ [] := by
    decide
  have isField : ("leader_wait", Kind.patience) ∈ Kind.fields .config := by
    decide
  have checked : Checked surplus .config [] (("leader_wait", tree) :: map) :=
    checked_of_read isRecord reads
  rcases (checked_known isField).mp checked with ⟨-, -, behind⟩
  have same : ∀ name inner, (name, inner) ∈ Kind.fields .config →
      reading surplus inner name map =
        reading surplus inner name (("leader_wait", tree) :: map) := by
    intro name inner isOther
    by_cases isWait : name = "leader_wait"
    · subst isWait
      have sameKind : inner = .patience :=
        Option.some.inj ((Kind.lookup_fields_iff.mpr isOther).symm.trans
          (Kind.lookup_fields_iff.mpr isField))
      subst sameKind
      rw [reading_cons_self, reading, behind.lookup_eq_none isField]
      exact standard.symm
    · rw [reading_cons_of_ne _ isWait]
  rw [← reads]
  exact read_record_congr isRecord behind.forget checked same

/-! ## Records by position -/

/-- A field is read where it stands, by its name or by its place. -/
theorem item_eq_required {α : Type} {expected : Expected} {place : Nat} {name : String}
    {read : Tree gap → Decoded α} {items : List (Tree gap)} {broken : Option gap} {tree : Tree gap}
    (found : map.lookup name = some tree) (placed : items[place]? = some tree) :
    item expected place read items broken = required name read map := by
  rw [item, required, found, placed]

/-- A record is read from the values of its fields in their order as from the map of them. -/
theorem read_positional {items : List (Tree gap)} {value : kind.Value} (isRecord : kind.fields ≠ [])
    (placed : List.Forall₂ (fun field item => (field.1, item) ∈ map) kind.fields items)
    (reads : kind.read surplus (.record map) = .ok value) :
    kind.read surplus (.list items) = .ok value := by
  have checked := checked_of_read isRecord reads
  have found : ∀ name inner tree, (name, inner) ∈ kind.fields → (name, tree) ∈ map →
      map.lookup name = some tree :=
    fun name inner tree isField isEntry => (checked.lookup_eq_some_iff isField).mpr isEntry
  cases kind with
  | span =>
      rcases placed with _ | ⟨first, _ | ⟨second, _ | _⟩⟩
      have whole := found "secs" .seconds _ (by decide) first
      have further := found "nanos" .nanoseconds _ (by decide) second
      have parts : span surplus (.record map) = .ok value := reads
      rw [span_record checked] at parts
      rcases bind_eq_ok_iff.mp parts with ⟨seconds, readsSeconds, parts⟩
      rcases bind_eq_ok_iff.mp parts with ⟨nanos, readsNanos, assembled⟩
      show span surplus (.list _) = .ok value
      rw [Tree.list, span, item_eq_required whole rfl, item_eq_required further rfl, readsSeconds,
        ok_bind, readsNanos, ok_bind, assembled]
      rfl
  | patience =>
      rcases placed with _ | ⟨first, _ | ⟨second, _ | _⟩⟩
      have timeout := found "timeout" .span _ (by decide) first
      have pause := found "poll_interval" .span _ (by decide) second
      have parts : patience surplus (.record map) = .ok value := reads
      rw [patience_record checked] at parts
      show patience surplus (.list _) = .ok value
      rw [Tree.list, patience, item_eq_required timeout rfl, item_eq_required pause rfl]
      exact parts
  | member =>
      rcases placed with _ | ⟨first, _ | ⟨second, _ | ⟨third, _ | _⟩⟩⟩
      have node := found "id" .node _ (by decide) first
      have name := found "name" .text _ (by decide) second
      have address := found "peer_address" .endpoint _ (by decide) third
      have parts : member surplus (.record map) = .ok value := reads
      rw [member_record checked] at parts
      show member surplus (.list _) = .ok value
      rw [Tree.list, member, item_eq_required node rfl, item_eq_required name rfl,
        item_eq_required address rfl]
      exact parts
  | config =>
      rcases placed with _ | ⟨first, _ | ⟨second, _ | ⟨third, _ | ⟨fourth, _ | _⟩⟩⟩⟩
      have node := found "node_id" .node _ (by decide) first
      have name := found "cluster_name" .text _ (by decide) second
      have listed := found "members" .members _ (by decide) third
      have waiting := found "leader_wait" .patience _ (by decide) fourth
      have parts : config surplus (.record map) = .ok value := reads
      rw [config_record checked, reading, waiting] at parts
      show config surplus (.list _) = .ok value
      rw [Tree.list, config, item_eq_required node rfl, item_eq_required name rfl,
        item_eq_required listed rfl]
      exact parts
  | _ => contradiction

end Records

/-! ## Lists of members -/

/-- A member may be written otherwise if it says the same. -/
theorem members_replace {surplus : Surplus} {before behind : List (Tree gap)}
    {tree restated : Tree gap} {value : List Member}
    (keeps : ∀ said, member surplus tree = .ok said → member surplus restated = .ok said)
    (reads : members surplus (.list (before ++ tree :: behind)) = .ok value) :
    members surplus (.list (before ++ restated :: behind)) = .ok value := by
  rw [Tree.list, members, List.mapM_append, List.mapM_cons] at reads ⊢
  -- All members were read, so this one was.
  have same : member surplus tree = member surplus restated := by
    rcases bind_eq_ok_iff.mp reads with ⟨_, all, -⟩
    rcases bind_eq_ok_iff.mp all with ⟨_, -, fromHere⟩
    rcases bind_eq_ok_iff.mp fromHere with ⟨_, here, -⟩
    rcases bind_eq_ok_iff.mp here with ⟨said, first, -⟩
    rw [first, keeps said first]
  rwa [← same]

/-! ## Reading what says the same -/

/-- What is read from a tree is read after a step, one case for each kind of step. -/
theorem Restated.read {surplus : Surplus} {kind : Kind} {tree other : Tree gap}
    (restated : Restated surplus kind tree other) {value : kind.Value}
    (reads : kind.read surplus tree = .ok value) : kind.read surplus other = .ok value := by
  induction restated with
  | reordered isRecord same => exact read_perm isRecord reads same
  | added isRecord lenient unknown =>
      rw [read_middle isRecord, read_unknown isRecord lenient unknown]
      exact reads
  | removed isRecord lenient unknown =>
      rw [read_middle isRecord, read_unknown isRecord lenient unknown] at reads
      exact reads
  | positional isRecord placed => exact read_positional isRecord placed reads
  | @unwaited before behind tree standard =>
      have isRecord : Kind.fields .config ≠ [] := by
        decide
      exact read_unwaited standard ((read_middle isRecord before behind _).mp reads)
  | @inField kind inner before behind name tree other isField _ induction =>
      have isRecord : kind.fields ≠ [] := List.ne_nil_of_mem isField
      rw [read_middle isRecord] at reads ⊢
      exact read_field isField (fun said => induction) reads
  | inMember _ induction => exact members_replace (fun said => induction) reads

theorem read_of_restated {surplus : Surplus} {kind : Kind} {tree other : Tree gap}
    (steps : Relation.ReflTransGen (Restated surplus kind) tree other) {value : kind.Value}
    (reads : kind.read surplus tree = .ok value) : kind.read surplus other = .ok value := by
  induction steps with
  | refl => exact reads
  | tail _ step induction => exact step.read induction

/-! ## Reading a configuration -/

/--
A configuration is read from a tree whose records are maps without repeated keys
exactly if the tree is sound.  It is the one that the tree says: each field is what
stands under its name, the timeout and the pause of its patience are exactly as long
as the words of their spans say, and without a patience it has the standard one.  The
same is read from every tree that says the same; of the other trees the first flaw is
reported.  A span by itself is as long as its words say, and too long exactly if its
whole seconds do not fit a word.

A document is read with `.ignored` surplus, text with `.malformed` and a value
with `.refused`.
-/
theorem plain_config_reading (surplus : Surplus) {tree : Tree gap} (plain : Plain .config tree) :
    ((∃ value, config surplus tree = .ok value) ↔ Sound surplus .config tree) ∧
      (∀ value, config surplus tree = .ok value ↔ SaysConfig tree value) ∧
      (∀ value other, config surplus tree = .ok value →
        Relation.ReflTransGen (Restated surplus .config) tree other →
          config surplus other = .ok value) ∧
      (∀ mismatch, config surplus tree = .error mismatch ↔
        (flaws surplus .config tree).head? = some mismatch) ∧
      ∀ whole further, whole < UInt64.size → further < UInt32.size →
        ∀ part : Tree gap, Parts whole further part →
          (whole + further / 1000000000 < UInt64.size →
            ∃ value, span surplus part = .ok value ∧
              value.nanoseconds = whole * 1000000000 + further) ∧
          (UInt64.size ≤ whole + further / 1000000000 →
            span surplus part = .error .spanOverflow) := by
  refine ⟨plain.reads_iff surplus, fun value => plain.config_iff, ?_, ?_, ?_⟩
  · intro value other reads steps
    exact read_of_restated steps reads
  · intro mismatch
    have reported : refusal? (config surplus tree) = (flaws surplus .config tree).head? :=
      plain.reported surplus
    rw [← reported, refusal?_eq_some_iff]
  · intro whole further wholeFits furtherFits part parts
    rw [parts.read surplus wholeFits furtherFits]
    exact ⟨assembleSpan_of_lt, assembleSpan_of_le⟩

/-- A configuration without a name, with a member whose identifier is no number. -/
def nameless : Tree Unit :=
  .record [("members", .list [.record [("name", .text "a"), ("id", .text "b")]]),
    ("node_id", .nat 1)]

/-- A configuration with entries in an unusual order, whose timeout carries two seconds. -/
def carrying : Tree Unit :=
  .record [
    ("leader_wait", .record [
      ("poll_interval", .record [("secs", .nat 0), ("nanos", .nat 20000000)]),
      ("timeout", .record [("nanos", .nat 2000000000), ("secs", .nat 1)])]),
    ("members", .list []), ("cluster_name", .text "c"), ("comment", .null), ("node_id", .nat 7)]

theorem plain_nameless : Plain .config nameless := by
  have plainMember : Plain .member
      (.record [("name", .text "a"), ("id", .text "b")] : Tree Unit) := by
    apply Plain.of_entries (by decide) (by decide)
    simpa [Kind.fields] using ⟨.whole rfl, .whole rfl⟩
  apply Plain.of_entries (by decide) (by decide)
  simpa [Kind.fields] using ⟨.items (List.forall_mem_singleton.mpr plainMember), .whole rfl⟩

theorem plain_carrying : Plain .config carrying := by
  have pause : Plain .span
      (.record [("secs", .nat 0), ("nanos", .nat 20000000)] : Tree Unit) := by
    apply Plain.of_entries (by decide) (by decide)
    simpa [Kind.fields] using ⟨.whole rfl, .whole rfl⟩
  have timeout : Plain .span
      (.record [("nanos", .nat 2000000000), ("secs", .nat 1)] : Tree Unit) := by
    apply Plain.of_entries (by decide) (by decide)
    simpa [Kind.fields] using ⟨.whole rfl, .whole rfl⟩
  have waiting : Plain .patience (.record [
      ("poll_interval", .record [("secs", .nat 0), ("nanos", .nat 20000000)]),
      ("timeout", .record [("nanos", .nat 2000000000), ("secs", .nat 1)])] : Tree Unit) := by
    apply Plain.of_entries (by decide) (by decide)
    simpa [Kind.fields] using ⟨pause, timeout⟩
  apply Plain.of_entries (by decide) (by decide)
  simpa [Kind.fields] using ⟨waiting, .items (by simp), .whole rfl, .whole rfl⟩

theorem plain_config_reading_nameless :
    Plain .config nameless ∧
      config .ignored nameless = .error (.wrongShape (.text "b") .word64) ∧
      (∃ value, span .ignored (.list [.nat 1, .nat 2000000000] : Tree Unit) = .ok value ∧
        value.nanoseconds = 3 * 1000000000) ∧
      Plain .config carrying ∧
      ∃ value, config .ignored carrying = .ok value ∧ value.node.toNat = 7 ∧
        value.clusterName = "c" ∧ value.patience.timeout.nanoseconds = 3 * 1000000000 ∧
        value.patience.pause.nanoseconds = 20000000 := by
  rcases plain_config_reading .ignored plain_nameless with ⟨-, -, -, refused, lengths⟩
  rcases plain_config_reading .ignored plain_carrying with ⟨-, reads, -⟩
  have said : SaysConfig carrying
      ⟨.ofNat 7, "c", [], ⟨.ofMilliseconds 3000, .ofMilliseconds 20⟩⟩ := by
    refine { node := rfl, name := rfl, members := ⟨[], rfl, .nil⟩, patience := ?_, standard := ?_ }
    · rintro _ ⟨⟩
      exact {
        timeout := ⟨_, rfl, 1, 2000000000, by decide, by decide, .named (.swap _ _ _), by decide⟩
        pause := ⟨_, rfl, 0, 20000000, by decide, by decide, .named (.refl _), by decide⟩ }
    · intro absent
      contradiction
  refine ⟨plain_nameless, (refused _).mpr rfl, ?_, plain_carrying, _, (reads _).mpr said, rfl, rfl,
    rfl, rfl⟩
  exact (lengths 1 2000000000 (by decide) (by decide) _ .placed).1 (by decide)

/-! ## Reading a document -/

section Documents

variable {text : String} {tree : Tree Empty} (written : Toml.tree? text = some tree)

include written

theorem ofDocument_of_tree? :
    Config.ofDocument text = (config .ignored tree).mapError DocumentFault.mismatch := by
  rw [Config.ofDocument, written]

theorem ofDocument_eq_ok_iff {value : Config} :
    Config.ofDocument text = .ok value ↔ config .ignored tree = .ok value := by
  rw [ofDocument_of_tree? written]
  cases config .ignored tree <;> simp [Except.mapError]

theorem ofDocument_eq_mismatch_iff {mismatch : Mismatch} :
    Config.ofDocument text = .error (.mismatch mismatch) ↔
      config .ignored tree = .error mismatch := by
  rw [ofDocument_of_tree? written]
  cases config .ignored tree <;> simp [Except.mapError]

/--
A document is read exactly if its tree is sound, as the configuration that its tree
says and as every document whose tree says the same, and it is refused for the first
flaw of its tree.
-/
theorem ofDocument_reading (plain : Plain .config tree) :
    ((∃ value, Config.ofDocument text = .ok value) ↔ Sound .ignored .config tree) ∧
      (∀ value, Config.ofDocument text = .ok value ↔ SaysConfig tree value) ∧
      (∀ value otherText other, Config.ofDocument text = .ok value →
        Toml.tree? otherText = some other →
          Relation.ReflTransGen (Restated .ignored .config) tree other →
            Config.ofDocument otherText = .ok value) ∧
      ∀ mismatch, Config.ofDocument text = .error (.mismatch mismatch) ↔
        (flaws .ignored .config tree).head? = some mismatch := by
  have sound : (∃ value, config .ignored tree = .ok value) ↔ Sound .ignored .config tree :=
    plain.reads_iff .ignored
  have reported : refusal? (config .ignored tree) = (flaws .ignored .config tree).head? :=
    plain.reported .ignored
  simp only [ofDocument_eq_ok_iff written, ofDocument_eq_mismatch_iff written]
  refine ⟨sound, fun value => plain.config_iff, ?_, ?_⟩
  · intro value otherText other reads otherWritten steps
    exact (ofDocument_eq_ok_iff otherWritten).mpr (read_of_restated steps reads)
  · intro mismatch
    rw [← reported, refusal?_eq_some_iff]

end Documents

end Leadership.Decode
