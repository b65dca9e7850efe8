import Leadership.Proofs.Toml.Sections
import Mathlib.Tactic.SplitIfs

/-!
# Integers of documents

A document has integers of 64 bits with a sign, in whatever base they are written
and however deep in arrays and tables they stand.  So no integer of the data of a
document is beyond `greatestInt`: the readers of values make no greater one, and
the building of tables only puts into place what was read.
-/

namespace Leadership

/-- No integer of a tree is greater than a bound. -/
inductive Tree.Bounded {gap : Type} (bound : Int) : Tree gap → Prop where
  | null : Bounded bound .null
  | bool (value : Bool) : Bounded bound (.bool value)
  | int {value : Int} (small : value ≤ bound) : Bounded bound (.int value)
  | float (text : String) : Bounded bound (.float text)
  | text (value : String) : Bounded bound (.text value)
  | seq {items : List (Tree gap)} (broken : Option gap)
      (all : ∀ item ∈ items, Bounded bound item) : Bounded bound (.seq items broken)
  | map {entries : List (String × Tree gap)} (broken : Option gap)
      (all : ∀ entry ∈ entries, Bounded bound entry.2) : Bounded bound (.map entries broken)
  | hole (fault : gap) : Bounded bound (.hole fault)

namespace Toml

/-- The data of a value whose integers fit a document. -/
abbrev Fitting (tree : Tree Empty) : Prop :=
  tree.Bounded greatestInt

/-- Whatever a reader reads from a text has a property. -/
def Yields {α : Type} (good : α → Prop) (read : List Char → Option (α × List Char)) : Prop :=
  ∀ text value rest, read text = some (value, rest) → good value

theorem of_orElse {α : Type} {first second : Option α} {value : α}
    (found : (first <|> second) = some value) : first = some value ∨ second = some value := by
  cases first with
  | none => exact .inr found
  | some other => exact .inl found

/-! ## Scalars -/

theorem readMarked_yields (base : Nat) : Yields Fitting (readMarked base) := by
  intro text tree rest reads
  simp only [readMarked, Option.bind_eq_bind, Option.bind_eq_some_iff] at reads
  obtain ⟨⟨digits, behind⟩, -, reads⟩ := reads
  split_ifs at reads with small
  cases reads
  exact .int (by exact_mod_cast small)

theorem readDecimal_yields (negative : Bool) : Yields Fitting (readDecimal negative) := by
  intro text tree rest reads
  simp only [readDecimal, Option.bind_eq_bind, Option.bind_eq_some_iff] at reads
  obtain ⟨⟨whole, behind⟩, -, reads⟩ := reads
  split at reads
  · contradiction
  · simp only [Option.bind_eq_some_iff] at reads
    obtain ⟨⟨fraction, point⟩, -, ⟨exponent, mark⟩, -, reads⟩ := reads
    split_ifs at reads with integral minus small small
    · cases reads
      exact .int (by omega)
    · cases reads
      exact .int (by exact_mod_cast small)
    · simp only [Option.bind_eq_some_iff] at reads
      obtain ⟨digits, -, same⟩ := reads
      cases same
      exact .float digits

theorem readSpecial_yields (negative : Bool) : Yields Fitting (readSpecial negative) := by
  intro text tree rest reads
  unfold readSpecial at reads
  split at reads
  · cases reads
    exact .float _
  · cases reads
    exact .float _
  · contradiction

theorem readNumber_yields : Yields Fitting readNumber := by
  intro text tree rest reads
  unfold readNumber at reads
  split at reads
  · exact readMarked_yields 16 _ _ _ reads
  · exact readMarked_yields 8 _ _ _ reads
  · exact readMarked_yields 2 _ _ _ reads
  · rcases of_orElse reads with special | decimal
    · exact readSpecial_yields _ _ _ _ special
    · exact readDecimal_yields _ _ _ _ decimal

theorem readMoment_yields : Yields Fitting readMoment := by
  intro text tree rest reads
  obtain ⟨behind, -, same⟩ := Option.map_eq_some_iff.mp reads
  cases same
  exact .map none (by simp [Tree.Bounded.null])

theorem readScalar_yields : Yields Fitting readScalar := by
  intro text tree rest reads
  unfold readScalar at reads
  split at reads
  · cases reads
    exact .bool true
  · cases reads
    exact .bool false
  · split at reads
    · cases reads
      exact .text _
    · rcases of_orElse reads with moment | number
      · exact readMoment_yields _ _ _ moment
      · exact readNumber_yields _ _ _ number

/-! ## Tables under construction -/

/-- All data of an entry fits a document. -/
inductive Node.Fitting : Node → Prop where
  | value {tree : Tree Empty} (fits : Toml.Fitting tree) : Fitting (.value tree)
  | table (standing : Standing) {entries : Entries}
      (all : ∀ entry ∈ entries, Fitting entry.2) : Fitting (.table standing entries)
  | tables {earlier : List Entries} {latest : Entries}
      (before : ∀ entries ∈ earlier, ∀ entry ∈ entries, Fitting entry.2)
      (last : ∀ entry ∈ latest, Fitting entry.2) : Fitting (.tables earlier latest)

namespace Entries

/-- All data of a table fits a document. -/
def Fitting (entries : Entries) : Prop :=
  ∀ entry ∈ entries, entry.2.Fitting

/-- A change to a table leaves it with data that fits a document. -/
def Keeps (change : Entries → Option Entries) : Prop :=
  ∀ entries changed, entries.Fitting → change entries = some changed → changed.Fitting

theorem fitting_nil : Fitting [] :=
  List.forall_mem_nil _

theorem Fitting.concat {entries : Entries} (fits : entries.Fitting) {key : String} {node : Node}
    (fitsNode : node.Fitting) : Fitting (entries ++ [(key, node)]) :=
  List.forall_mem_append.mpr ⟨fits, List.forall_mem_singleton.mpr fitsNode⟩

theorem Fitting.lookup {entries : Entries} (fits : entries.Fitting) {key : String} {node : Node}
    (found : entries.lookup key = some node) : node.Fitting := by
  obtain ⟨before, behind, rfl, -⟩ := List.lookup_eq_some_iff.mp found
  exact fits (key, node) (by simp)

/-- Changing one entry keeps a table fitting if the entry is changed for one that fits. -/
theorem alter_keeps {key : String} {change : Option Node → Option Node}
    (keeps : ∀ before after, (∀ node ∈ before, Node.Fitting node) → change before = some after →
      after.Fitting) : Keeps (alter key change) := by
  intro entries
  induction entries with
  | nil =>
      intro changed fits changes
      obtain ⟨node, made, rfl⟩ := Option.map_eq_some_iff.mp changes
      exact List.forall_mem_singleton.mpr (keeps none node (by simp) made)
  | cons entry entries induction =>
      intro changed fits changes
      obtain ⟨fitsFirst, fitsRest⟩ := List.forall_mem_cons.mp fits
      rw [alter] at changes
      split_ifs at changes
      · obtain ⟨node, made, rfl⟩ := Option.map_eq_some_iff.mp changes
        exact List.forall_mem_cons.mpr ⟨keeps (some entry.2) node (by simpa using fitsFirst) made,
          fitsRest⟩
      · obtain ⟨others, made, rfl⟩ := Option.map_eq_some_iff.mp changes
        exact List.forall_mem_cons.mpr ⟨fitsFirst, induction others fitsRest made⟩

/-- A pair with fitting data; the induction is on its dotted path. -/
theorem assign_keeps {tree : Tree Empty} (fits : Toml.Fitting tree) (key : String)
    (path : List String) (receives : Bool) : Keeps (assign key tree path receives) := by
  induction path generalizing receives with
  | nil =>
      intro entries changed fitsEntries changes
      rw [assign] at changes
      split_ifs at changes
      refine alter_keeps ?_ entries changed fitsEntries changes
      rintro (_ | node) after fitsBefore makes
      · cases makes
        exact .value fits
      · contradiction
  | cons step path induction =>
      intro entries changed fitsEntries changes
      rw [assign] at changes
      refine alter_keeps ?_ entries changed fitsEntries changes
      rintro (_ | node) after fitsBefore makes
      · obtain ⟨inner, made, rfl⟩ := Option.map_eq_some_iff.mp makes
        exact .table .dotted (induction true [] inner fitting_nil made)
      · cases fitsBefore node rfl with
        | value => contradiction
        | table standing all =>
            cases standing with
            | declared => contradiction
            | implied | dotted =>
                obtain ⟨inner, made, rfl⟩ := Option.map_eq_some_iff.mp makes
                exact .table _ (induction _ _ inner all made)
        | tables before last =>
            obtain ⟨inner, made, rfl⟩ := Option.map_eq_some_iff.mp makes
            exact .tables before (induction false _ inner last made)

theorem assignAll_keeps {pairs : List Pair} (fits : ∀ pair ∈ pairs, Toml.Fitting pair.tree) :
    Keeps (assignAll pairs) := by
  induction pairs with
  | nil =>
      intro entries changed fitsEntries changes
      cases changes
      exact fitsEntries
  | cons pair pairs induction =>
      obtain ⟨fitsFirst, fitsRest⟩ := List.forall_mem_cons.mp fits
      intro entries changed fitsEntries changes
      rw [assignAll, List.foldlM_cons, Option.bind_eq_bind, Option.bind_eq_some_iff] at changes
      obtain ⟨next, assigned, others⟩ := changes
      exact induction fitsRest next changed
        (assign_keeps fitsFirst pair.key pair.path true entries next fitsEntries assigned) others

theorem within_keeps {change : Entries → Option Entries} (keeps : Keeps change)
    (path : List String) : Keeps (within change path) := by
  induction path with
  | nil => exact keeps
  | cons step path induction =>
      intro entries changed fitsEntries changes
      rw [within] at changes
      refine alter_keeps ?_ entries changed fitsEntries changes
      rintro (_ | node) after fitsBefore makes
      · obtain ⟨inner, made, rfl⟩ := Option.map_eq_some_iff.mp makes
        exact .table .implied (induction [] inner fitting_nil made)
      · cases fitsBefore node rfl with
        | value => contradiction
        | table standing all =>
            obtain ⟨inner, made, rfl⟩ := Option.map_eq_some_iff.mp makes
            exact .table standing (induction _ inner all made)
        | tables before last =>
            obtain ⟨inner, made, rfl⟩ := Option.map_eq_some_iff.mp makes
            exact .tables before (induction _ inner last made)

theorem declare_keeps {fill : Entries → Option Entries} (keeps : Keeps fill) (key : String) :
    Keeps (declare key fill) := by
  intro entries changed fits changes
  unfold declare at changes
  split at changes
  · obtain ⟨inner, made, rfl⟩ := Option.map_eq_some_iff.mp changes
    exact fits.concat (.table .declared (keeps [] inner fitting_nil made))
  · next implied found =>
      obtain ⟨inner, made, rfl⟩ := Option.map_eq_some_iff.mp changes
      have others : Fitting (entries.filter fun entry => entry.1 ≠ key) :=
        fun entry isEntry => fits entry (List.mem_filter.mp isEntry).1
      cases fits.lookup found with
      | table _ all => exact others.concat (.table .declared (keeps implied inner all made))
  · contradiction

theorem append_keeps {fill : Entries → Option Entries} (keeps : Keeps fill) (key : String) :
    Keeps (append key fill) := by
  refine alter_keeps ?_
  rintro (_ | node) after fitsBefore makes
  · obtain ⟨inner, made, rfl⟩ := Option.map_eq_some_iff.mp makes
    exact .tables (List.forall_mem_nil _) (keeps [] inner fitting_nil made)
  · cases fitsBefore node rfl with
    | value => contradiction
    | table => contradiction
    | tables before last =>
        obtain ⟨inner, made, rfl⟩ := Option.map_eq_some_iff.mp makes
        refine .tables ?_ (keeps [] inner fitting_nil made)
        exact List.forall_mem_append.mpr ⟨before, List.forall_mem_singleton.mpr last⟩

end Entries

/-! ## Data of tables -/

theorem entriesToTrees_eq (entries : Entries) :
    entriesToTrees entries = entries.map (fun entry => (entry.1, entry.2.toTree)) := by
  induction entries with
  | nil => rfl
  | cons entry entries induction =>
      rw [entriesToTrees, induction]
      rfl

theorem fitting_record {entries : Entries}
    (all : ∀ entry ∈ entries, Fitting entry.2.toTree) : Fitting (Entries.toTree entries) := by
  refine .map none ?_
  rw [entriesToTrees_eq, List.forall_mem_map]
  exact all

theorem Node.Fitting.toTree {node : Node} (fits : node.Fitting) : Toml.Fitting node.toTree := by
  induction fits with
  | value fits => exact fits
  | table standing all trees => exact fitting_record trees
  | @tables earlier latest before last treesBefore treesLast =>
      rw [toTree_tables]
      refine .seq none ?_
      rw [List.forall_mem_map, List.forall_mem_append, List.forall_mem_singleton]
      exact ⟨fun entries isTable => fitting_record (treesBefore entries isTable),
        fitting_record treesLast⟩

theorem Entries.Fitting.toTree {entries : Entries} (fits : entries.Fitting) :
    Toml.Fitting entries.toTree :=
  fitting_record fun entry isEntry => (fits entry isEntry).toTree

/-! ## Values -/

section Values

variable {readItem : ValueReader} (yields : Yields Fitting readItem)

include yields

theorem readItems_yields (fuel : Nat) :
    Yields (fun items => ∀ item ∈ items, Fitting item) (readItems readItem fuel) := by
  induction fuel with
  | zero =>
      intro text items rest reads
      contradiction
  | succ fuel induction =>
      intro text items rest reads
      simp only [readItems, Option.bind_eq_bind, Option.bind_eq_some_iff] at reads
      obtain ⟨start, -, ⟨item, behind⟩, read, next, -, reads⟩ := reads
      have fits : Fitting item := yields _ _ _ read
      split at reads
      · cases reads
        exact List.forall_mem_singleton.mpr fits
      · simp only [Option.bind_eq_some_iff] at reads
        obtain ⟨further, -, reads⟩ := reads
        split at reads
        · cases reads
          exact List.forall_mem_singleton.mpr fits
        · simp only [Option.bind_eq_some_iff] at reads
          obtain ⟨⟨others, last⟩, readOthers, same⟩ := reads
          cases same
          exact List.forall_mem_cons.mpr ⟨fits, induction _ _ _ readOthers⟩
      · contradiction

theorem readArray_yields : Yields Fitting (readArray readItem) := by
  intro text tree rest reads
  simp only [readArray, Option.bind_eq_bind, Option.bind_eq_some_iff] at reads
  obtain ⟨start, -, reads⟩ := reads
  split at reads
  · cases reads
    exact .seq none (List.forall_mem_nil _)
  · simp only [Option.bind_eq_some_iff] at reads
    obtain ⟨⟨items, behind⟩, readAll, same⟩ := reads
    cases same
    exact .seq none (readItems_yields yields _ _ _ _ readAll)

theorem readPair_yields : Yields (fun pair => Fitting pair.tree) (readPair readItem) := by
  intro text pair rest reads
  simp only [readPair, Option.bind_eq_bind, Option.bind_eq_some_iff] at reads
  obtain ⟨⟨⟨path, key⟩, behind⟩, -, reads⟩ := reads
  split at reads
  · simp only [Option.bind_eq_some_iff] at reads
    obtain ⟨⟨tree, last⟩, read, same⟩ := reads
    cases same
    exact yields _ _ _ read
  · contradiction

theorem readPairs_yields (fuel : Nat) :
    Yields (fun pairs => ∀ pair ∈ pairs, Fitting pair.tree) (readPairs readItem fuel) := by
  induction fuel with
  | zero =>
      intro text pairs rest reads
      contradiction
  | succ fuel induction =>
      intro text pairs rest reads
      simp only [readPairs, Option.bind_eq_bind, Option.bind_eq_some_iff] at reads
      obtain ⟨⟨pair, behind⟩, read, reads⟩ := reads
      have fits : Fitting pair.tree := readPair_yields yields _ _ _ read
      split at reads
      · cases reads
        exact List.forall_mem_singleton.mpr fits
      · simp only [Option.bind_eq_some_iff] at reads
        obtain ⟨⟨others, last⟩, readOthers, same⟩ := reads
        cases same
        exact List.forall_mem_cons.mpr ⟨fits, induction _ _ _ readOthers⟩
      · contradiction

theorem readInline_yields : Yields Fitting (readInline readItem) := by
  intro text tree rest reads
  simp only [readInline] at reads
  split at reads
  · cases reads
    exact .map none (List.forall_mem_nil _)
  · simp only [Option.bind_eq_bind, Option.bind_eq_some_iff] at reads
    obtain ⟨⟨pairs, behind⟩, readAll, entries, assigned, same⟩ := reads
    cases same
    have fits := readPairs_yields yields _ _ _ _ readAll
    exact (Entries.assignAll_keeps fits [] entries Entries.fitting_nil assigned).toTree

end Values

/-- The induction is on the depth to which arrays and inline tables may be nested. -/
theorem readValue_yields (depth : Nat) : Yields Fitting (readValue depth) := by
  induction depth with
  | zero =>
      intro text tree rest reads
      exact readScalar_yields _ _ _ reads
  | succ depth induction =>
      intro text tree rest reads
      unfold readValue at reads
      split at reads
      · next inner behind same =>
          cases same
          exact readArray_yields induction _ _ _ reads
      · next inner behind same =>
          cases same
          exact readInline_yields induction _ _ _ reads
      · exact readScalar_yields _ _ _ reads

/-! ## Documents -/

/-- A statement whose data, if it has some, fits a document. -/
def Statement.Fitting : Statement → Prop
  | .pair assigned => Toml.Fitting assigned.tree
  | .heading _ => True

theorem readPairLine_yields : Yields Statement.Fitting readPairLine := by
  intro text statement rest reads
  simp only [readPairLine, Option.bind_eq_bind, Option.bind_eq_some_iff] at reads
  obtain ⟨⟨pair, behind⟩, read, last, -, same⟩ := reads
  cases same
  exact readPair_yields (readValue_yields nestingLimit) _ _ _ read

theorem readHeadingLine_yields : Yields Statement.Fitting readHeadingLine := by
  intro text statement rest reads
  unfold readHeadingLine at reads
  split at reads
  all_goals
    simp only [Option.bind_eq_bind, Option.bind_eq_some_iff] at reads
    obtain ⟨⟨⟨path, key⟩, behind⟩, -, reads⟩ := reads
    split at reads
    · simp only [Option.bind_eq_some_iff] at reads
      obtain ⟨last, -, same⟩ := reads
      cases same
      trivial
    · contradiction

theorem readStatements_fitting {fuel : Nat} {text : List Char} {statements : List Statement}
    (reads : readStatements fuel text = some statements) :
    ∀ statement ∈ statements, statement.Fitting := by
  induction fuel generalizing text statements with
  | zero => contradiction
  | succ fuel induction =>
      rw [readStatements] at reads
      split at reads
      · cases reads
        exact List.forall_mem_nil _
      · exact induction reads
      · simp only [Option.bind_eq_bind, Option.bind_eq_some_iff] at reads
        obtain ⟨rest, -, others⟩ := reads
        exact induction others
      · simp only [Option.bind_eq_bind, Option.bind_eq_some_iff] at reads
        obtain ⟨⟨statement, rest⟩, read, others, readOthers, same⟩ := reads
        cases same
        exact List.forall_mem_cons.mpr ⟨readHeadingLine_yields _ _ _ read, induction readOthers⟩
      · simp only [Option.bind_eq_bind, Option.bind_eq_some_iff] at reads
        obtain ⟨⟨statement, rest⟩, read, others, readOthers, same⟩ := reads
        cases same
        exact List.forall_mem_cons.mpr ⟨readPairLine_yields _ _ _ read, induction readOthers⟩

theorem sections_fitting {statements : List Statement}
    (fits : ∀ statement ∈ statements, statement.Fitting) :
    (∀ pair ∈ (sections statements).1, Fitting pair.tree) ∧
      ∀ part ∈ (sections statements).2, ∀ pair ∈ part.pairs, Fitting pair.tree := by
  induction statements with
  | nil => exact ⟨List.forall_mem_nil _, List.forall_mem_nil _⟩
  | cons statement statements induction =>
      obtain ⟨fitsFirst, fitsRest⟩ := List.forall_mem_cons.mp fits
      obtain ⟨pairs, parts⟩ := induction fitsRest
      cases statement with
      | pair pair => exact ⟨List.forall_mem_cons.mpr ⟨fitsFirst, pairs⟩, parts⟩
      | heading heading =>
          exact ⟨List.forall_mem_nil _, List.forall_mem_cons.mpr ⟨pairs, parts⟩⟩

theorem Section.addTo_keeps {part : Section} (fits : ∀ pair ∈ part.pairs, Toml.Fitting pair.tree) :
    Entries.Keeps part.addTo := by
  have fills := Entries.assignAll_keeps fits
  intro entries changed fitsEntries changes
  unfold Section.addTo at changes
  split at changes
  · exact Entries.within_keeps (Entries.declare_keeps fills _) _ _ _ fitsEntries changes
  · exact Entries.within_keeps (Entries.append_keeps fills _) _ _ _ fitsEntries changes

theorem addParts_keeps {parts : List Section}
    (fits : ∀ part ∈ parts, ∀ pair ∈ part.pairs, Fitting pair.tree) :
    Entries.Keeps (addParts parts) := by
  induction parts with
  | nil =>
      intro entries changed fitsEntries changes
      cases changes
      exact fitsEntries
  | cons part parts induction =>
      obtain ⟨fitsFirst, fitsRest⟩ := List.forall_mem_cons.mp fits
      intro entries changed fitsEntries changes
      rw [addParts, List.foldlM_cons, Option.bind_eq_bind, Option.bind_eq_some_iff] at changes
      obtain ⟨next, added, others⟩ := changes
      exact induction fitsRest next changed
        (Section.addTo_keeps fitsFirst entries next fitsEntries added) others

/-- No integer of a document's data is beyond the greatest integer. -/
theorem fitting_of_tree? {text : String} {tree : Tree Empty} (reads : tree? text = some tree) :
    Fitting tree := by
  simp only [tree?, build?, statements?, Option.bind_eq_bind, Option.bind_eq_some_iff] at reads
  obtain ⟨statements, read, entries, ⟨root, assigned, added⟩, same⟩ := reads
  cases same
  obtain ⟨pairs, parts⟩ := sections_fitting (readStatements_fitting read)
  have fitsRoot := Entries.assignAll_keeps pairs [] root Entries.fitting_nil assigned
  exact (addParts_keeps parts root entries fitsRoot added).toTree

end Toml

end Leadership
