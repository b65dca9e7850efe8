import Leadership.Proofs.Decode.Kinds

/-!
# Flaws of a tree

Everything that is wrong with a tree, in depth-first order: the flaws of the
entries of a record as they appear, then the needed fields that are lacking in
their declared order, and last a span that is too long.  Nothing stops at the
first flaw here.  Reading does, and the main statement of this module says that
what it reports is the first flaw of all, and that it succeeds exactly if there
is none.
-/

namespace Leadership.Decode

variable {gap : Type}

/-! ## All flaws -/

/-- The needed fields that a map lacks. -/
def missingOf (map : List (String × Tree gap)) (name : String) : List Mismatch :=
  if name ∈ map.map Prod.fst then [] else [.missingField name]

def Kind.missing (kind : Kind) (map : List (String × Tree gap)) : List Mismatch :=
  kind.needed.flatMap (missingOf map)

/-- The flaw of a span whose whole seconds, carried ones included, do not fit a word. -/
def Kind.excess : Kind → List (String × Tree gap) → List Mismatch
  | .span, map =>
      match map.lookup "secs", map.lookup "nanos" with
      | some (.int whole), some (.int further) =>
          if UInt64.size ≤ whole + further / secondLength then [.spanOverflow] else []
      | _, _ => []
  | _, _ => []

/-- Whether a tree of a kind consists of parts that are read by themselves. -/
def Kind.opens (kind : Kind) : Tree gap → Bool
  | .map _ _ => kind.fields ≠ []
  | .seq _ _ => kind = .members || kind.fields ≠ []
  | _ => false

mutual

/-- All that is wrong with a tree of a kind whose records are maps. -/
def flaws (surplus : Surplus) (kind : Kind) : Tree gap → List Mismatch
  | .map map broken =>
      if kind.fields = [] then (refusal? (kind.read surplus (.map map broken))).toList
      else entryFlaws surplus kind map ++ kind.missing map ++ kind.excess map
  | .seq items broken =>
      if kind = .members then itemFlaws surplus .member items
      else (refusal? (kind.read surplus (.seq items broken))).toList
  | .null => (refusal? (kind.read surplus (.null : Tree gap))).toList
  | .bool value => (refusal? (kind.read surplus (.bool value : Tree gap))).toList
  | .int value => (refusal? (kind.read surplus (.int value : Tree gap))).toList
  | .float digits => (refusal? (kind.read surplus (.float digits : Tree gap))).toList
  | .text value => (refusal? (kind.read surplus (.text value : Tree gap))).toList
  | .hole fault => (refusal? (kind.read surplus (.hole fault))).toList

/-- The flaws of the entries of a record, as they appear. -/
def entryFlaws (surplus : Surplus) (kind : Kind) : List (String × Tree gap) → List Mismatch
  | [] => []
  | (key, tree) :: rest =>
      (match kind.fields.lookup key with
        | some inner => flaws surplus inner tree
        | none => if kind.strict then [.unknownField key (kind.fields.map Prod.fst)] else []) ++
        entryFlaws surplus kind rest

/-- The flaws of the items of a list. -/
def itemFlaws (surplus : Surplus) (kind : Kind) : List (Tree gap) → List Mismatch
  | [] => []
  | item :: items => flaws surplus kind item ++ itemFlaws surplus kind items

end

theorem flaws_of_not_opens {surplus : Surplus} {kind : Kind} {tree : Tree gap}
    (whole : kind.opens tree = false) :
    flaws surplus kind tree = (refusal? (kind.read surplus tree)).toList := by
  cases tree with
  | map map broken =>
      have noFields : kind.fields = [] := by simpa [Kind.opens] using whole
      rw [flaws, if_pos noFields]
  | seq items broken =>
      have noList : kind ≠ .members := by
        intro isList
        simp [Kind.opens, isList] at whole
      rw [flaws, if_neg noList]
  | _ => rw [flaws]

/-- What is read is refused for the first flaw of a tree. -/
def Reported (surplus : Surplus) (kind : Kind) (tree : Tree gap) : Prop :=
  refusal? (kind.read surplus tree) = (flaws surplus kind tree).head?

/-! ## Entries and items -/

/--
The check of the entries stops at the first flaw.  The induction is on the
entries that are left; none of them is among the fields seen.
-/
theorem refusal?_entries {surplus : Surplus} {kind : Kind} {seen : List String}
    {map : List (String × Tree gap)} (distinct : (map.map Prod.fst).Nodup)
    (fresh : ∀ key ∈ map.map Prod.fst, key ∉ seen)
    (reported : ∀ name inner tree, (name, inner) ∈ kind.fields → (name, tree) ∈ map →
      Reported surplus inner tree) :
    refusal? (kind.entries surplus seen map) = (entryFlaws surplus kind map).head? := by
  induction map generalizing seen with
  | nil => rfl
  | cons entry rest induction =>
      rcases entry with ⟨key, tree⟩
      rw [List.map_cons, List.nodup_cons] at distinct
      rw [List.map_cons, List.forall_mem_cons] at fresh
      have reportedRest : ∀ name inner tree, (name, inner) ∈ kind.fields → (name, tree) ∈ rest →
          Reported surplus inner tree := by
        intro name inner later isField isEntry
        exact reported name inner later isField (List.mem_cons_of_mem _ isEntry)
      rw [entryFlaws, List.head?_append]
      cases known : kind.fields.lookup key with
      | some inner =>
          have first : refusal? (inner.read surplus tree) = (flaws surplus inner tree).head? :=
            reported key inner tree (Kind.lookup_fields_iff.mp known) List.mem_cons_self
          rw [entries_known surplus known, if_neg fresh.1]
          simp only [← first]
          cases inner.read surplus tree with
          | error mismatch => rfl
          | ok value =>
              apply induction distinct.2 _ reportedRest
              intro later isKey
              rw [List.mem_cons, not_or]
              exact ⟨fun same => distinct.1 (same ▸ isKey), fresh.2 later isKey⟩
      | none =>
          rw [entries_unknown surplus known]
          split_ifs
          · rfl
          · exact induction distinct.2 fresh.2 reportedRest

theorem refusal?_items {surplus : Surplus} {items : List (Tree gap)}
    (reported : ∀ item ∈ items, Reported surplus .member item) :
    refusal? (items.mapM (member surplus)) = (itemFlaws surplus .member items).head? := by
  induction items with
  | nil => rfl
  | cons item items induction =>
      rw [List.forall_mem_cons] at reported
      have first : refusal? (member surplus item) = (flaws surplus .member item).head? :=
        reported.1
      rw [itemFlaws, List.head?_append, ← first, ← induction reported.2, List.mapM_cons]
      cases member surplus item with
      | error mismatch => rfl
      | ok value =>
          rw [ok_bind]
          cases items.mapM (member surplus) <;> rfl

/-! ## Records -/

section Records

variable {surplus : Surplus} {kind : Kind} {map : List (String × Tree gap)}

/-- A map whose entries cannot all be read is refused for the first that cannot. -/
theorem read_record_of_error {mismatch : Mismatch} (isRecord : kind.fields ≠ [])
    (refused : kind.entries surplus [] map = .error mismatch) :
    kind.read surplus (.record map) = .error mismatch := by
  cases kind with
  | span =>
      have checked : entries spanFields true [] map = .error mismatch := refused
      rw [Kind.read, Tree.record, span, checked]
      rfl
  | patience =>
      have checked : entries (patienceFields surplus) false [] map = .error mismatch := refused
      rw [Kind.read, Tree.record, patience, checked]
      rfl
  | member =>
      have checked : entries memberFields false [] map = .error mismatch := refused
      rw [Kind.read, Tree.record, member, checked]
      rfl
  | config =>
      have checked : entries (configFields surplus) false [] map = .error mismatch := refused
      rw [Kind.read, Tree.record, config, checked]
      rfl
  | _ => contradiction

/-- A needed field is lacking, or it is read and the rest decides. -/
theorem refusal?_required {α β : Type} {name : String} {read : Tree gap → Decoded α}
    {next : α → Decoded β} {rest : List Mismatch}
    (reads : ∀ tree, (name, tree) ∈ map → ∃ value, read tree = .ok value)
    (continues : ∀ tree value, map.lookup name = some tree → read tree = .ok value →
      refusal? (next value) = rest.head?) :
    refusal? (required name read map >>= next) = (missingOf map name ++ rest).head? := by
  rw [required, missingOf]
  cases found : map.lookup name with
  | none =>
      have absent : name ∉ map.map Prod.fst := lookup_eq_none_iff_notMem.mp found
      rw [if_neg absent]
      rfl
  | some tree =>
      have isEntry : (name, tree) ∈ map := mem_of_lookup_eq_some found
      rcases reads tree isEntry with ⟨value, same⟩
      rw [if_pos (List.mem_map_of_mem isEntry)]
      simp only [same]
      exact continues tree value found same

end Records

/-- A word is read from an integer in its range. -/
theorem word_eq_ok_iff {size value : Nat} {expected : Expected} {tree : Tree gap} :
    word size expected tree = .ok value ↔ tree = .nat value ∧ value < size := by
  constructor
  · intro reads
    unfold word at reads
    split at reads
    · next number =>
        split_ifs at reads with inRange
        cases reads
        refine ⟨?_, by omega⟩
        rw [Tree.nat, Int.toNat_of_nonneg inRange.1]
    · contradiction
  · rintro ⟨rfl, small⟩
    exact word_nat small expected

/-- A span is too long exactly if its whole seconds, with those carried, are. -/
theorem ofParts?_eq_none_iff {whole further : Nat} :
    Span.ofParts? whole further = none ↔ UInt64.size ≤ whole + further / secondLength := by
  rw [Span.ofParts?, dite_eq_right_iff]
  simp only [spanLimit, secondLength, reduceCtorEq, imp_false]
  omega

theorem refusal?_assembleSpan (whole further : Nat) :
    refusal? (assembleSpan whole further) =
      if UInt64.size ≤ whole + further / secondLength then some .spanOverflow else none := by
  rw [assembleSpan_eq]
  simp only [← ofParts?_eq_none_iff]
  cases Span.ofParts? whole further with
  | none => simp
  | some value => simp

section Records

variable {surplus : Surplus} {kind : Kind} {map : List (String × Tree gap)}

theorem refusal?_span (checked : Checked surplus .span [] map) :
    refusal? (span surplus (.record map)) =
      (Kind.missing .span map ++ Kind.excess .span map).head? := by
  have order : Kind.missing .span map ++ Kind.excess .span map =
      missingOf map "secs" ++ (missingOf map "nanos" ++ Kind.excess .span map) := by
    simp [Kind.missing, Kind.needed, Kind.fields]
  have seconds : ∀ tree, ("secs", tree) ∈ map →
      ∃ value, word UInt64.size .word64 tree = .ok value :=
    fun tree => checked.reads "secs" .seconds tree (by decide)
  have nanos : ∀ tree, ("nanos", tree) ∈ map → ∃ value, nanoseconds tree = .ok value :=
    fun tree => checked.reads "nanos" .nanoseconds tree (by decide)
  rw [span_record checked, order]
  apply refusal?_required seconds
  intro tree whole found reads
  apply refusal?_required nanos
  intro another further foundFurther readsFurther
  obtain rfl : tree = .nat whole := (word_eq_ok_iff.mp reads).1
  obtain rfl : another = .nat further := (word_eq_ok_iff.mp readsFurther).1
  have bound : (UInt64.size : Int) ≤ (whole : Int) + (further : Int) / (secondLength : Int) ↔
      UInt64.size ≤ whole + further / secondLength := by
    rw [← Int.natCast_ediv, ← Int.natCast_add, Int.ofNat_le]
  rw [refusal?_assembleSpan, Kind.excess, found, foundFurther]
  simp only [Tree.nat, bound]
  split_ifs <;> rfl

theorem refusal?_patience (checked : Checked surplus .patience [] map) :
    refusal? (patience surplus (.record map)) = (Kind.missing .patience map).head? := by
  have order : Kind.missing .patience map =
      missingOf map "timeout" ++ (missingOf map "poll_interval" ++ []) := by
    simp [Kind.missing, Kind.needed, Kind.fields]
  rw [patience_record checked, order]
  apply refusal?_required (fun tree => checked.reads "timeout" .span tree (by decide))
  intro _ timeout _ _
  apply refusal?_required (fun tree => checked.reads "poll_interval" .span tree (by decide))
  intro _ pause _ _
  rfl

theorem refusal?_member (checked : Checked surplus .member [] map) :
    refusal? (member surplus (.record map)) = (Kind.missing .member map).head? := by
  have order : Kind.missing .member map =
      missingOf map "id" ++ (missingOf map "name" ++ (missingOf map "peer_address" ++ [])) := by
    simp [Kind.missing, Kind.needed, Kind.fields]
  rw [member_record checked, order]
  apply refusal?_required (fun tree => checked.reads "id" .node tree (by decide))
  intro _ node _ _
  apply refusal?_required (fun tree => checked.reads "name" .text tree (by decide))
  intro _ name _ _
  apply refusal?_required (fun tree => checked.reads "peer_address" .endpoint tree (by decide))
  intro _ address _ _
  rfl

/-- The patience is not needed, and where it stands it can be read. -/
theorem refusal?_config (checked : Checked surplus .config [] map) :
    refusal? (config surplus (.record map)) = (Kind.missing .config map).head? := by
  have order : Kind.missing .config map =
      missingOf map "node_id" ++
        (missingOf map "cluster_name" ++ (missingOf map "members" ++ [])) := by
    simp [Kind.missing, Kind.needed]
  rw [config_record checked, order]
  apply refusal?_required (fun tree => checked.reads "node_id" .node tree (by decide))
  intro _ node _ _
  apply refusal?_required (fun tree => checked.reads "cluster_name" .text tree (by decide))
  intro _ name _ _
  apply refusal?_required (fun tree => checked.reads "members" .members tree (by decide))
  intro _ members _ _
  have reads : ∃ value, reading surplus .patience "leader_wait" map = .ok value := by
    rw [reading]
    cases found : map.lookup "leader_wait" with
    | none => exact ⟨.standard, rfl⟩
    | some tree =>
        exact checked.reads "leader_wait" .patience tree (by decide) (mem_of_lookup_eq_some found)
  rcases reads with ⟨waiting, same⟩
  rw [same]
  rfl

/-- A map whose entries can be read is refused for a needed field or for its length. -/
theorem refusal?_record (isRecord : kind.fields ≠ []) (checked : Checked surplus kind [] map) :
    refusal? (kind.read surplus (.record map)) = (kind.missing map ++ kind.excess map).head? := by
  cases kind with
  | span => exact refusal?_span checked
  | patience =>
      rw [show Kind.excess .patience map = [] from rfl, List.append_nil]
      exact refusal?_patience checked
  | member =>
      rw [show Kind.excess .member map = [] from rfl, List.append_nil]
      exact refusal?_member checked
  | config =>
      rw [show Kind.excess .config map = [] from rfl, List.append_nil]
      exact refusal?_config checked
  | _ => contradiction

end Records

/-! ## The first flaw -/

/--
A tree of a kind in which the records are maps, and no key of them is repeated.
Other parts of it may be anything.
-/
inductive Plain : Kind → Tree gap → Prop where
  | record {kind : Kind} {map : List (String × Tree gap)} (isRecord : kind.fields ≠ [])
      (distinct : (map.map Prod.fst).Nodup)
      (plain : ∀ name inner tree, (name, inner) ∈ kind.fields → (name, tree) ∈ map →
        Plain inner tree) : Plain kind (.record map)
  | items {items : List (Tree gap)} (plain : ∀ item ∈ items, Plain .member item) :
      Plain .members (.list items)
  | whole {kind : Kind} {tree : Tree gap} (closed : kind.opens tree = false) : Plain kind tree

/-- A map is plain if its entries are, each as the field that has its name. -/
theorem Plain.of_entries {kind : Kind} {map : List (String × Tree gap)}
    (isRecord : kind.fields ≠ []) (distinct : (map.map Prod.fst).Nodup)
    (plain : ∀ entry ∈ map, ∀ field ∈ kind.fields, field.1 = entry.1 → Plain field.2 entry.2) :
    Plain kind (.record map) :=
  .record isRecord distinct fun name inner tree isField isEntry =>
    plain (name, tree) isEntry (name, inner) isField rfl

/-- The entries that are read make a check of the whole map. -/
theorem Plain.reported {kind : Kind} {tree : Tree gap} (plain : Plain kind tree)
    (surplus : Surplus) : Reported surplus kind tree := by
  induction plain with
  | @record kind map isRecord distinct _ induction =>
      have listed : flaws surplus kind (.record map) =
          entryFlaws surplus kind map ++ kind.missing map ++ kind.excess map := by
        rw [Tree.record, flaws, if_neg isRecord]
      have first : refusal? (kind.entries surplus [] map) = (entryFlaws surplus kind map).head? :=
        refusal?_entries distinct (fun _ _ => List.not_mem_nil) induction
      rw [Reported, listed, List.append_assoc, List.head?_append, ← first]
      cases checked : kind.entries surplus [] map with
      | error mismatch =>
          rw [read_record_of_error isRecord checked]
          rfl
      | ok done =>
          rw [refusal?_record isRecord (entries_eq_ok_iff.mp checked)]
          rfl
  | @items items _ induction =>
      have listed : flaws surplus .members (.list items) = itemFlaws surplus .member items := by
        rw [Tree.list, flaws, if_pos rfl]
      rw [Reported, listed, ← refusal?_items induction, Kind.read, Tree.list, members]
      cases items.mapM (member surplus) <;> rfl
  | whole closed =>
      rw [Reported, flaws_of_not_opens closed]
      cases refusal? _ <;> rfl

/-! ## Trees without flaws -/

/--
A tree in which each record has its needed fields, whatever stands under the name
of a field is sound, and a span has no other entries and is not too long.  The
order of entries does not matter.
-/
inductive Sound (surplus : Surplus) : Kind → Tree gap → Prop where
  | record {kind : Kind} {map : List (String × Tree gap)} (isRecord : kind.fields ≠ [])
      (present : ∀ name ∈ kind.needed, ∃ tree, (name, tree) ∈ map)
      (sound : ∀ name inner tree, (name, inner) ∈ kind.fields → (name, tree) ∈ map →
        Sound surplus inner tree)
      (known : kind = .span → ∀ entry ∈ map, entry.1 = "secs" ∨ entry.1 = "nanos")
      (short : kind = .span → ∀ whole further : Int, ("secs", .int whole) ∈ map →
        ("nanos", .int further) ∈ map → whole + further / secondLength < UInt64.size) :
      Sound surplus kind (.record map)
  | items {items : List (Tree gap)} (sound : ∀ item ∈ items, Sound surplus .member item) :
      Sound surplus .members (.list items)
  | whole {kind : Kind} {tree : Tree gap} (closed : kind.opens tree = false)
      (reads : ∃ value, kind.read surplus tree = .ok value) : Sound surplus kind tree

theorem entryFlaws_eq_nil_iff {surplus : Surplus} {kind : Kind}
    {map : List (String × Tree gap)} :
    entryFlaws surplus kind map = [] ↔
      (∀ name inner tree, (name, inner) ∈ kind.fields → (name, tree) ∈ map →
        flaws surplus inner tree = []) ∧
      (kind.strict → ∀ entry ∈ map, entry.1 ∈ kind.fields.map Prod.fst) := by
  induction map with
  | nil => simp [entryFlaws]
  | cons entry rest induction =>
      rcases entry with ⟨key, tree⟩
      rw [entryFlaws, List.append_eq_nil_iff, induction]
      constructor
      · rintro ⟨first, sound, known⟩
        constructor
        · intro name inner later isField isEntry
          rcases List.mem_cons.mp isEntry with isFirst | isLater
          · cases isFirst
            rw [Kind.lookup_fields_iff.mpr isField] at first
            exact first
          · exact sound name inner later isField isLater
        · intro strict
          refine List.forall_mem_cons.mpr ⟨?_, known strict⟩
          by_contra unknown
          rw [lookup_eq_none_iff_notMem.mpr unknown] at first
          simp [strict] at first
      · rintro ⟨sound, known⟩
        refine ⟨?_, ?_, ?_⟩
        · cases found : kind.fields.lookup key with
          | some inner =>
              exact sound key inner tree (Kind.lookup_fields_iff.mp found) List.mem_cons_self
          | none =>
              have unknown := lookup_eq_none_iff_notMem.mp found
              have lenient : ¬kind.strict := fun strict =>
                unknown (known strict (key, tree) List.mem_cons_self)
              simp [lenient]
        · intro name inner later isField isEntry
          exact sound name inner later isField (List.mem_cons_of_mem _ isEntry)
        · intro strict other isEntry
          exact known strict other (List.mem_cons_of_mem _ isEntry)

theorem itemFlaws_eq_nil_iff {surplus : Surplus} {kind : Kind} {items : List (Tree gap)} :
    itemFlaws surplus kind items = [] ↔ ∀ item ∈ items, flaws surplus kind item = [] := by
  induction items with
  | nil => simp [itemFlaws]
  | cons item items induction => simp [itemFlaws, induction]

theorem missing_eq_nil_iff {kind : Kind} {map : List (String × Tree gap)} :
    kind.missing map = [] ↔ ∀ name ∈ kind.needed, ∃ tree, (name, tree) ∈ map := by
  simp [Kind.missing, missingOf, List.flatMap_eq_nil_iff]

/-- The two parts of a span are found wherever they stand. -/
theorem excess_eq_nil_iff {kind : Kind} {map : List (String × Tree gap)}
    (distinct : (map.map Prod.fst).Nodup) :
    kind.excess map = [] ↔
      (kind = .span → ∀ whole further : Int, ("secs", .int whole) ∈ map →
        ("nanos", .int further) ∈ map → whole + further / secondLength < UInt64.size) := by
  have once := List.nodup_iff_count_le_one.mp distinct
  cases kind with
  | span =>
      simp only [forall_const, ← lookup_eq_some_iff_mem (once _), Kind.excess]
      constructor
      · intro fits whole further first second
        by_contra long
        rw [first, second] at fits
        simp only at fits
        rw [if_pos (Int.not_lt.mp long)] at fits
        contradiction
      · intro fits
        split
        · next whole further first second =>
            rw [if_neg (Int.not_le.mpr (fits whole further first second))]
        · rfl
  | _ => exact iff_of_true rfl (fun impossible => by contradiction)

theorem Plain.flaws_eq_nil_iff {kind : Kind} {tree : Tree gap} (plain : Plain kind tree)
    (surplus : Surplus) : flaws surplus kind tree = [] ↔ Sound surplus kind tree := by
  induction plain with
  | @record kind map isRecord distinct _ induction =>
      have known : (kind.strict → ∀ entry ∈ map, entry.1 ∈ kind.fields.map Prod.fst) ↔
          (kind = .span → ∀ entry ∈ map, entry.1 = "secs" ∨ entry.1 = "nanos") := by
        cases kind <;> simp [Kind.strict, Kind.fields]
      rw [Tree.record, flaws, if_neg isRecord, List.append_eq_nil_iff, List.append_eq_nil_iff,
        entryFlaws_eq_nil_iff, missing_eq_nil_iff, excess_eq_nil_iff distinct, known]
      constructor
      · rintro ⟨⟨⟨sound, strict⟩, present⟩, short⟩
        refine .record isRecord present ?_ strict short
        intro name inner tree isField isEntry
        exact (induction name inner tree isField isEntry).mp (sound name inner tree isField isEntry)
      · intro sound
        cases sound with
        | record _ present sound strict short =>
            refine ⟨⟨⟨?_, strict⟩, present⟩, short⟩
            intro name inner tree isField isEntry
            exact (induction name inner tree isField isEntry).mpr
              (sound name inner tree isField isEntry)
        | whole closed reads => simp [Kind.opens, isRecord] at closed
  | @items items _ induction =>
      rw [Tree.list, flaws, if_pos rfl, itemFlaws_eq_nil_iff]
      constructor
      · intro sound
        exact .items fun item isItem => (induction item isItem).mp (sound item isItem)
      · intro sound
        cases sound with
        | items sound => exact fun item isItem => (induction item isItem).mpr (sound item isItem)
        | whole closed reads => simp [Kind.opens] at closed
  | @whole kind tree closed =>
      rw [flaws_of_not_opens closed, Option.toList_eq_nil_iff, refusal?_eq_none_iff]
      constructor
      · exact .whole closed
      · intro sound
        cases sound with
        | record isRecord => simp [Tree.record, Kind.opens, isRecord] at closed
        | items => simp [Tree.list, Kind.opens] at closed
        | whole _ reads => exact reads

/-- A tree can be read exactly if it is sound. -/
theorem Plain.reads_iff {kind : Kind} {tree : Tree gap} (plain : Plain kind tree)
    (surplus : Surplus) :
    (∃ value, kind.read surplus tree = .ok value) ↔ Sound surplus kind tree := by
  rw [← plain.flaws_eq_nil_iff surplus, ← refusal?_eq_none_iff, plain.reported surplus,
    List.head?_eq_none_iff]

end Leadership.Decode
