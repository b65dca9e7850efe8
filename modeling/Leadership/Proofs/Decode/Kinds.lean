import Leadership.Proofs.Config.Trees
import Mathlib.Data.List.Nodup
import Mathlib.Tactic.SplitIfs

/-!
# What trees are read as

Every place of a configuration's tree is read as something of a fixed kind: a
scalar, a record with its fields, or the list of members.  The kinds make one of
the readers, and what is common to reading the four records is said once: the
entries of a map are checked in their order, and then the record is made of what
is read for its fields, wherever they stand.
-/

namespace Leadership.Decode

variable {gap : Type}

/-- What a tree is read as. -/
inductive Kind where
  | seconds
  | nanoseconds
  | node
  | text
  | endpoint
  | span
  | patience
  | member
  | members
  | config
deriving DecidableEq

namespace Kind

/-- What a tree of some kind says. -/
def Value : Kind → Type
  | .seconds | .nanoseconds => Nat
  | .node => NodeId
  | .text => String
  | .endpoint => Endpoint
  | .span => Span
  | .patience => Patience
  | .member => Member
  | .members => List Member
  | .config => Config

/-- Reads a tree as something of a kind. -/
def read (surplus : Surplus) : (kind : Kind) → Tree gap → Decoded kind.Value
  | .seconds => word UInt64.size .word64
  | .nanoseconds => Decode.nanoseconds
  | .node => nodeId
  | .text => Decode.text
  | .endpoint => Decode.endpoint
  | .span => Decode.span surplus
  | .patience => Decode.patience surplus
  | .member => Decode.member surplus
  | .members => Decode.members surplus
  | .config => Decode.config surplus

/-- The fields of a record in their declared order.  Other kinds are no records and have none. -/
def fields : Kind → List (String × Kind)
  | .span => [("secs", .seconds), ("nanos", .nanoseconds)]
  | .patience => [("timeout", .span), ("poll_interval", .span)]
  | .member => [("id", .node), ("name", .text), ("peer_address", .endpoint)]
  | .config =>
      [("node_id", .node), ("cluster_name", .text), ("members", .members),
        ("leader_wait", .patience)]
  | _ => []

/-- The fields that a record must have. -/
def needed : Kind → List String
  | .config => ["node_id", "cluster_name", "members"]
  | kind => kind.fields.map Prod.fst

/-- Only a span must not have other entries than its fields. -/
def strict (kind : Kind) : Bool :=
  kind = .span

/-- The fields of a record as they are checked. -/
def checks (surplus : Surplus) (kind : Kind) : List (Field gap) :=
  kind.fields.map fun field => .of field.1 (field.2.read surplus)

theorem find?_checks (surplus : Surplus) (kind : Kind) (key : String) :
    (kind.checks surplus : List (Field gap)).find? (fun field => field.name == key) =
      (kind.fields.lookup key).map fun inner => .of key (inner.read surplus) := by
  rw [checks]
  induction kind.fields with
  | nil => rfl
  | cons field fields induction =>
      rcases field with ⟨name, inner⟩
      rw [List.map_cons, List.find?_cons, List.lookup_cons, induction]
      by_cases same : key = name
      · subst same
        simp [Field.of]
      · have different : (key == name) = false := beq_eq_false_iff_ne.mpr same
        have turned : (name == key) = false := beq_eq_false_iff_ne.mpr (Ne.symm same)
        simp [Field.of, different, turned]

theorem names_checks (surplus : Surplus) (kind : Kind) :
    (kind.checks surplus : List (Field gap)).map Field.name = kind.fields.map Prod.fst := by
  rw [checks, List.map_map]
  rfl

theorem distinct_fields (kind : Kind) : (kind.fields.map Prod.fst).Nodup := by
  cases kind <;> decide

end Kind

/-! ## Keys that occur once -/

/-- An entry whose key occurs once is the one that is found. -/
theorem lookup_eq_some_iff_mem {α : Type} {entries : List (String × α)} {key : String} {value : α}
    (once : (entries.map Prod.fst).count key ≤ 1) :
    entries.lookup key = some value ↔ (key, value) ∈ entries := by
  induction entries with
  | nil => simp
  | cons entry entries induction =>
      rcases entry with ⟨name, first⟩
      rw [List.map_cons, List.count_cons] at once
      rw [List.lookup_cons, List.mem_cons, Prod.mk.injEq]
      by_cases same : key = name
      · subst same
        have absent : (key, value) ∉ entries := by
          intro later
          have counted : 0 < (entries.map Prod.fst).count key :=
            List.count_pos_iff.mpr (List.mem_map_of_mem later)
          simp at once
          omega
        simp [absent, eq_comm]
      · have different : (key == name) = false := beq_eq_false_iff_ne.mpr same
        rw [different]
        simp only [same, false_and, false_or]
        exact induction (by omega)

theorem lookup_eq_none_iff_notMem {α : Type} {entries : List (String × α)} {key : String} :
    entries.lookup key = none ↔ key ∉ entries.map Prod.fst := by
  rw [List.lookup_eq_none_iff, List.mem_map]
  constructor
  · rintro differs ⟨entry, isEntry, rfl⟩
    exact absurd (differs entry isEntry) (by simp)
  · intro absent entry isEntry
    exact bne_iff_ne.mpr fun same => absent ⟨entry, isEntry, same.symm⟩

theorem mem_of_lookup_eq_some {α : Type} {entries : List (String × α)} {key : String} {value : α}
    (found : entries.lookup key = some value) : (key, value) ∈ entries := by
  rcases List.lookup_eq_some_iff.mp found with ⟨before, behind, rfl, -⟩
  simp

theorem Kind.lookup_fields_iff {kind inner : Kind} {name : String} :
    kind.fields.lookup name = some inner ↔ (name, inner) ∈ kind.fields :=
  lookup_eq_some_iff_mem (List.nodup_iff_count_le_one.mp kind.distinct_fields name)

theorem Kind.field_unique {kind inner other : Kind} {name : String}
    (first : (name, inner) ∈ kind.fields) (second : (name, other) ∈ kind.fields) :
    inner = other := by
  rw [← Kind.lookup_fields_iff] at first second
  exact Option.some.inj (first.symm.trans second)

/-! ## Refusals -/

/-- Why something cannot be read, if it cannot. -/
def refusal? {α : Type} : Decoded α → Option Mismatch
  | .ok _ => none
  | .error mismatch => some mismatch

@[simp]
theorem refusal?_ok {α : Type} (value : α) : refusal? (.ok value) = none :=
  rfl

@[simp]
theorem refusal?_error {α : Type} (mismatch : Mismatch) :
    refusal? (.error mismatch : Decoded α) = some mismatch :=
  rfl

theorem refusal?_eq_none_iff {α : Type} {outcome : Decoded α} :
    refusal? outcome = none ↔ ∃ value, outcome = .ok value := by
  cases outcome <;> simp

theorem refusal?_eq_some_iff {α : Type} {outcome : Decoded α} {mismatch : Mismatch} :
    refusal? outcome = some mismatch ↔ outcome = .error mismatch := by
  cases outcome <;> simp

/-! ## Checking the entries of a map -/

section Entries

variable (surplus : Surplus) {kind inner : Kind} {key : String} {tree : Tree gap}
  {seen : List String} {rest : List (String × Tree gap)}

/-- The check of the entries of a record, given the fields before them. -/
def Kind.entries (kind : Kind) (seen : List String) (map : List (String × Tree gap)) :
    Decoded Unit :=
  Decode.entries (kind.checks surplus) kind.strict seen map

theorem entries_known (known : kind.fields.lookup key = some inner) :
    kind.entries surplus seen ((key, tree) :: rest) =
      if key ∈ seen then .error (.repeatedField key)
      else match inner.read surplus tree with
        | .ok _ => kind.entries surplus (key :: seen) rest
        | .error mismatch => .error mismatch := by
  have found : (kind.checks surplus : List (Field gap)).find? (fun field => field.name == key) =
      (kind.fields.lookup key).map fun inner => .of key (inner.read surplus) :=
    kind.find?_checks surplus key
  rw [known] at found
  rw [Kind.entries, Decode.entries, found]
  simp only [Option.map_some, Field.of]
  split
  · rfl
  · cases inner.read surplus tree <;> rfl

theorem entries_unknown (unknown : kind.fields.lookup key = none) :
    kind.entries surplus seen ((key, tree) :: rest) =
      if kind.strict then .error (.unknownField key (kind.fields.map Prod.fst))
      else kind.entries surplus seen rest := by
  have found : (kind.checks surplus : List (Field gap)).find? (fun field => field.name == key) =
      (kind.fields.lookup key).map fun inner => .of key (inner.read surplus) :=
    kind.find?_checks surplus key
  rw [unknown] at found
  rw [Kind.entries, Decode.entries, found, Kind.names_checks]
  simp only [Option.map_none]
  split
  · rfl
  · rfl

end Entries

/--
What the check of a map makes sure of: a field occurs once and not among those
seen, it can be read, and where other entries are not allowed there are none.
-/
structure Checked (surplus : Surplus) (kind : Kind) (seen : List String)
    (map : List (String × Tree gap)) : Prop where
  once : ∀ name inner, (name, inner) ∈ kind.fields →
    (map.map Prod.fst).count name ≤ if name ∈ seen then 0 else 1
  reads : ∀ name inner tree, (name, inner) ∈ kind.fields → (name, tree) ∈ map →
    ∃ value, inner.read surplus tree = .ok value
  known : kind.strict → ∀ entry ∈ map, entry.1 ∈ kind.fields.map Prod.fst

theorem checked_nil (surplus : Surplus) (kind : Kind) (seen : List String) :
    Checked surplus kind seen ([] : List (String × Tree gap)) where
  once := by simp
  reads := by simp
  known := by simp

/-- A key uses up its one occurrence. -/
theorem count_cons_le_iff {keys seen : List String} {key name : String} :
    (key :: keys).count name ≤ (if name ∈ seen then 0 else 1) ↔
      (key = name → key ∉ seen) ∧ keys.count name ≤ if name ∈ key :: seen then 0 else 1 := by
  rw [List.count_cons]
  by_cases same : key = name
  · subst same
    by_cases repeated : key ∈ seen <;> simp [repeated]
  · have other : name ∈ key :: seen ↔ name ∈ seen := by
      simp [Ne.symm same]
    simp [same, other]

theorem checked_known {surplus : Surplus} {kind inner : Kind} {key : String} {tree : Tree gap}
    {seen : List String} {rest : List (String × Tree gap)}
    (known : (key, inner) ∈ kind.fields) :
    Checked surplus kind seen ((key, tree) :: rest) ↔
      key ∉ seen ∧ (∃ value, inner.read surplus tree = .ok value) ∧
        Checked surplus kind (key :: seen) rest := by
  constructor
  · intro checked
    refine ⟨(count_cons_le_iff.mp (checked.once key inner known)).1 rfl,
      checked.reads key inner tree known List.mem_cons_self, ?_, ?_, ?_⟩
    · intro name other isField
      exact (count_cons_le_iff.mp (checked.once name other isField)).2
    · intro name other later isField isEntry
      exact checked.reads name other later isField (List.mem_cons_of_mem _ isEntry)
    · intro strict entry isEntry
      exact checked.known strict entry (List.mem_cons_of_mem _ isEntry)
  · rintro ⟨fresh, reads, checked⟩
    constructor
    · intro name other isField
      exact count_cons_le_iff.mpr ⟨fun _ => fresh, checked.once name other isField⟩
    · intro name other later isField isEntry
      rcases List.mem_cons.mp isEntry with isFirst | isLater
      · cases isFirst
        exact Kind.field_unique known isField ▸ reads
      · exact checked.reads name other later isField isLater
    · intro strict
      exact List.forall_mem_cons.mpr ⟨List.mem_map_of_mem known, checked.known strict⟩

theorem checked_unknown {surplus : Surplus} {kind : Kind} {key : String} {tree : Tree gap}
    {seen : List String} {rest : List (String × Tree gap)}
    (unknown : key ∉ kind.fields.map Prod.fst) :
    Checked surplus kind seen ((key, tree) :: rest) ↔
      ¬kind.strict ∧ Checked surplus kind seen rest := by
  have different : ∀ name inner, (name, inner) ∈ kind.fields → key ≠ name := by
    rintro name inner isField rfl
    exact unknown (List.mem_map_of_mem isField)
  have count : ∀ name inner, (name, inner) ∈ kind.fields →
      (key :: rest.map Prod.fst).count name = (rest.map Prod.fst).count name := by
    intro name inner isField
    exact List.count_cons_of_ne (different name inner isField)
  constructor
  · intro checked
    refine ⟨?_, ?_, ?_, ?_⟩
    · intro strict
      exact unknown (checked.known strict _ List.mem_cons_self)
    · intro name inner isField
      rw [← count name inner isField]
      exact checked.once name inner isField
    · intro name inner later isField isEntry
      exact checked.reads name inner later isField (List.mem_cons_of_mem _ isEntry)
    · intro strict entry isEntry
      exact checked.known strict entry (List.mem_cons_of_mem _ isEntry)
  · rintro ⟨lenient, checked⟩
    constructor
    · intro name inner isField
      rw [List.map_cons, count name inner isField]
      exact checked.once name inner isField
    · intro name inner later isField isEntry
      rcases List.mem_cons.mp isEntry with isFirst | isLater
      · cases isFirst
        exact absurd rfl (different key inner isField)
      · exact checked.reads name inner later isField isLater
    · intro strict
      exact absurd strict lenient

/-- The check goes through all entries exactly if the map keeps what it makes sure of. -/
theorem entries_eq_ok_iff {surplus : Surplus} {kind : Kind} {seen : List String}
    {map : List (String × Tree gap)} :
    kind.entries surplus seen map = .ok () ↔ Checked surplus kind seen map := by
  induction map generalizing seen with
  | nil => exact iff_of_true rfl (checked_nil surplus kind seen)
  | cons entry rest induction =>
      rcases entry with ⟨key, tree⟩
      cases known : kind.fields.lookup key with
      | some inner =>
          rw [entries_known surplus known, checked_known (Kind.lookup_fields_iff.mp known),
            ← induction]
          by_cases repeated : key ∈ seen
          · simp [repeated]
          · rw [if_neg repeated]
            cases inner.read surplus tree <;> simp [repeated]
      | none =>
          have unknown : key ∉ kind.fields.map Prod.fst := lookup_eq_none_iff_notMem.mp known
          rw [entries_unknown surplus known, checked_unknown unknown, ← induction]
          by_cases strict : kind.strict <;> simp [strict]

namespace Checked

variable {surplus : Surplus} {kind : Kind} {seen : List String}
  {map other : List (String × Tree gap)}

/-- The order of the entries does not matter. -/
theorem perm (checked : Checked surplus kind seen map) (reordered : map.Perm other) :
    Checked surplus kind seen other where
  once := by
    intro name inner isField
    rw [← (reordered.map Prod.fst).count_eq name]
    exact checked.once name inner isField
  reads := fun name inner tree isField isEntry =>
    checked.reads name inner tree isField (reordered.mem_iff.mpr isEntry)
  known := fun strict entry isEntry => checked.known strict entry (reordered.mem_iff.mpr isEntry)

/-- A field that was seen once more may be forgotten. -/
theorem forget {key : String} (checked : Checked surplus kind (key :: seen) map) :
    Checked surplus kind seen map where
  once := by
    intro name inner isField
    have bound := checked.once name inner isField
    by_cases repeated : name ∈ seen
    · simpa [repeated] using bound
    · refine Nat.le_trans bound ?_
      split_ifs <;> simp
  reads := checked.reads
  known := checked.known

theorem lookup_eq_some_iff (checked : Checked surplus kind [] map) {name : String} {inner : Kind}
    (isField : (name, inner) ∈ kind.fields) {tree : Tree gap} :
    map.lookup name = some tree ↔ (name, tree) ∈ map :=
  lookup_eq_some_iff_mem (by simpa using checked.once name inner isField)

/-- A field that is among those seen is not found again. -/
theorem lookup_eq_none {name : String} {inner : Kind}
    (checked : Checked surplus kind (name :: seen) map) (isField : (name, inner) ∈ kind.fields) :
    map.lookup name = none := by
  have absent : (map.map Prod.fst).count name = 0 := by
    simpa using checked.once name inner isField
  exact lookup_eq_none_iff_notMem.mpr (List.count_eq_zero.mp absent)

end Checked

/-! ## Records from their fields -/

/-- What a record has for a field that is lacking. -/
def Kind.absent : (kind : Kind) → String → Decoded kind.Value
  | .patience, _ => .ok .standard
  | _, name => .error (.missingField name)

/-- What is read for a field of a record. -/
def reading (surplus : Surplus) (inner : Kind) (name : String) (map : List (String × Tree gap)) :
    Decoded inner.Value :=
  match map.lookup name with
  | some tree => inner.read surplus tree
  | none => inner.absent name

section Records

variable {surplus : Surplus} {map : List (String × Tree gap)}

theorem span_record (checked : Checked surplus .span [] map) :
    span surplus (.record map) = (do
      let whole ← required "secs" (word UInt64.size .word64) map
      let further ← required "nanos" nanoseconds map
      assembleSpan whole further) := by
  have passes : entries spanFields true [] map = .ok () := entries_eq_ok_iff.mpr checked
  rw [Tree.record, span, passes, ok_bind, unbroken, ok_bind]

theorem patience_record (checked : Checked surplus .patience [] map) :
    patience surplus (.record map) = do
      let timeout ← required "timeout" (span surplus) map
      let pause ← required "poll_interval" (span surplus) map
      return ⟨timeout, pause⟩ := by
  have passes : entries (patienceFields surplus) false [] map = .ok () :=
    entries_eq_ok_iff.mpr checked
  rw [Tree.record, patience, passes, ok_bind, unbroken, ok_bind]

theorem member_record (checked : Checked surplus .member [] map) :
    member surplus (.record map) = do
      let node ← required "id" nodeId map
      let name ← required "name" text map
      let address ← required "peer_address" endpoint map
      return ⟨node, name, address⟩ := by
  have passes : entries memberFields false [] map = .ok () := entries_eq_ok_iff.mpr checked
  rw [Tree.record, member, passes, ok_bind, unbroken, ok_bind]

/-- A configuration is made of what is read for its fields, the patience among them. -/
theorem config_record (checked : Checked surplus .config [] map) :
    config surplus (.record map) = do
      let node ← required "node_id" nodeId map
      let name ← required "cluster_name" text map
      let listed ← required "members" (members surplus) map
      let waiting : Patience ← reading surplus .patience "leader_wait" map
      return ⟨node, name, listed, waiting⟩ := by
  have passes : entries (configFields surplus) false [] map = .ok () :=
    entries_eq_ok_iff.mpr checked
  rw [Tree.record, config, passes, ok_bind, unbroken, ok_bind, reading]
  cases map.lookup "leader_wait" <;> rfl

end Records

end Leadership.Decode
