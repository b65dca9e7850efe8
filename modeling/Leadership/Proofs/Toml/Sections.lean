import Leadership.Toml.Document

/-!
# Tables that are built from sections

What the statements of a document build, when it is laid out in sections: pairs
with fresh keys are put at the end of their table in their order, and repeated
headings of an array of tables collect one table for each.
-/

namespace Leadership.Toml

/-! ## Statements in sections -/

/-- The statements that a section consists of. -/
def Section.statements (part : Section) : List Statement :=
  .heading part.heading :: part.pairs.map .pair

theorem sections_pairs_append (pairs : List Entries.Pair) (rest : List Statement) :
    sections (pairs.map .pair ++ rest) =
      (pairs ++ (sections rest).1, (sections rest).2) := by
  induction pairs with
  | nil => rfl
  | cons pair pairs induction =>
      rw [List.map_cons, List.cons_append, sections, induction]
      rfl

theorem sections_parts (parts : List Section) :
    sections (parts.flatMap Section.statements) = ([], parts) := by
  induction parts with
  | nil => rfl
  | cons part parts induction =>
      rw [List.flatMap_cons, Section.statements, List.cons_append, sections,
        sections_pairs_append, induction, List.append_nil]

/-- The sections of a document that is laid out in sections. -/
theorem sections_statements (pairs : List Entries.Pair) (parts : List Section) :
    sections (pairs.map .pair ++ parts.flatMap Section.statements) = (pairs, parts) := by
  rw [sections_pairs_append, sections_parts, List.append_nil]

namespace Entries

/-! ## Entries -/

theorem alter_of_fresh {key : String} {entries : Entries} (fresh : key ∉ entries.map Prod.fst)
    (change : Option Node → Option Node) :
    alter key change entries = (change none).map (fun node => entries ++ [(key, node)]) := by
  induction entries with
  | nil => rfl
  | cons entry entries induction =>
      rw [List.map_cons, List.mem_cons, not_or] at fresh
      have other : entry.1 ≠ key := fun same => fresh.1 same.symm
      rw [alter, if_neg other, induction fresh.2]
      cases change none with
      | none => rfl
      | some node => rfl

theorem alter_append_self {key : String} {entries : Entries}
    (fresh : key ∉ entries.map Prod.fst) (node : Node) (change : Option Node → Option Node) :
    alter key change (entries ++ [(key, node)]) =
      (change (some node)).map (fun node => entries ++ [(key, node)]) := by
  induction entries with
  | nil => simp [alter]
  | cons entry entries induction =>
      rw [List.map_cons, List.mem_cons, not_or] at fresh
      have other : entry.1 ≠ key := fun same => fresh.1 same.symm
      rw [List.cons_append, alter, if_neg other, induction fresh.2]
      cases change (some node) with
      | none => rfl
      | some node => rfl

/-! ## Pairs -/

/-- The entry that a pair makes. -/
def Pair.entry (pair : Pair) : String × Node :=
  (pair.key, .value pair.tree)

theorem assignAll_of_fresh {pairs : List Pair} {entries : Entries}
    (plain : ∀ pair ∈ pairs, pair.path = [])
    (fresh : (entries.map Prod.fst ++ pairs.map Pair.key).Nodup) :
    assignAll pairs entries = some (entries ++ pairs.map Pair.entry) := by
  induction pairs generalizing entries with
  | nil => simp [assignAll]
  | cons pair pairs induction =>
      have isFresh : pair.key ∉ entries.map Prod.fst := by
        intro member
        exact (List.nodup_append.mp fresh).2.2 pair.key member pair.key (by simp) rfl
      have assigned : assign pair.key pair.tree pair.path true entries =
          some (entries ++ [pair.entry]) := by
        rw [plain pair List.mem_cons_self, assign, if_pos rfl, alter_of_fresh isFresh]
        rfl
      have others : assignAll pairs (entries ++ [pair.entry]) =
          some (entries ++ [pair.entry] ++ pairs.map Pair.entry) :=
        induction (fun other member => plain other (List.mem_cons_of_mem _ member))
          (by simpa [Pair.entry] using fresh)
      rw [List.append_assoc] at others
      rw [assignAll, List.foldlM_cons, assigned]
      exact others

/-! ## Headings -/

theorem append_of_fresh {key : String} {entries inner : Entries} {fill : Entries → Option Entries}
    (fresh : key ∉ entries.map Prod.fst) (filled : fill [] = some inner) :
    append key fill entries = some (entries ++ [(key, .tables [] inner)]) := by
  rw [append, alter_of_fresh fresh, filled]
  rfl

theorem append_again {key : String} {entries latest inner : Entries} {earlier : List Entries}
    {fill : Entries → Option Entries} (fresh : key ∉ entries.map Prod.fst)
    (filled : fill [] = some inner) :
    append key fill (entries ++ [(key, .tables earlier latest)]) =
      some (entries ++ [(key, .tables (earlier ++ [latest]) inner)]) := by
  rw [append, alter_append_self fresh, filled]
  rfl

theorem declare_of_fresh {key : String} {entries inner : Entries}
    {fill : Entries → Option Entries} (fresh : key ∉ entries.map Prod.fst)
    (filled : fill [] = some inner) :
    declare key fill entries = some (entries ++ [(key, .table .declared inner)]) := by
  have noEntry : entries.lookup key = none := by
    rw [List.lookup_eq_none_iff]
    intro entry member
    rw [bne_iff_ne]
    intro same
    exact fresh (same ▸ List.mem_map_of_mem member)
  rw [declare, noEntry, filled]
  rfl

theorem within_of_fresh {step : String} {entries inner : Entries}
    {change : Entries → Option Entries} (fresh : step ∉ entries.map Prod.fst)
    (changed : change [] = some inner) :
    entries.within change [step] = some (entries ++ [(step, .table .implied inner)]) := by
  rw [within, alter_of_fresh fresh, within, changed]
  rfl

theorem within_again {step : String} {standing : Standing} {entries inner changed : Entries}
    {change : Entries → Option Entries} (fresh : step ∉ entries.map Prod.fst)
    (changes : change inner = some changed) :
    within change [step] (entries ++ [(step, .table standing inner)]) =
      some (entries ++ [(step, .table standing changed)]) := by
  rw [within, alter_append_self fresh]
  simp only [within, changes, Option.map_some]

end Entries

/-! ## Sections -/

/-- A section whose pairs have keys of one part, each once. -/
structure Section.Plain (part : Section) : Prop where
  noPaths : ∀ pair ∈ part.pairs, pair.path = []
  noRepeats : (part.pairs.map Entries.Pair.key).Nodup

/-- The table that a section fills. -/
def Section.table (part : Section) : Entries :=
  part.pairs.map Entries.Pair.entry

theorem Section.Plain.assignAll {part : Section} (plain : part.Plain) :
    Entries.assignAll part.pairs [] = some part.table :=
  Entries.assignAll_of_fresh plain.noPaths (by simpa using plain.noRepeats)

/-- The first section under a heading with a step in front. -/
theorem Section.Plain.addTo_of_fresh {part : Section} {step key : String} {entries : Entries}
    (plain : part.Plain) (head : part.heading = .table [step] key)
    (fresh : step ∉ entries.map Prod.fst) :
    part.addTo entries =
      some (entries ++ [(step, .table .implied [(key, .table .declared part.table)])]) := by
  rw [Section.addTo, head]
  exact Entries.within_of_fresh fresh (Entries.declare_of_fresh List.not_mem_nil plain.assignAll)

/-- A further section under a heading with the same step in front. -/
theorem Section.Plain.addTo_again {part : Section} {step key : String}
    {entries inner : Entries} (plain : part.Plain) (standing : Standing)
    (head : part.heading = .table [step] key) (fresh : step ∉ entries.map Prod.fst)
    (another : key ∉ inner.map Prod.fst) :
    part.addTo (entries ++ [(step, .table standing inner)]) =
      some (entries ++
        [(step, .table standing (inner ++ [(key, .table .declared part.table)]))]) := by
  rw [Section.addTo, head]
  exact Entries.within_again fresh (Entries.declare_of_fresh another plain.assignAll)

def addParts (parts : List Section) (entries : Entries) : Option Entries :=
  parts.foldlM (fun entries part => part.addTo entries) entries

theorem addParts_cons_of_some {part : Section} {entries added : Entries}
    (adds : part.addTo entries = some added) (parts : List Section) :
    addParts (part :: parts) entries = addParts parts added := by
  rw [addParts, List.foldlM_cons, adds]
  rfl

theorem addParts_append_of_some {front : List Section} {entries added : Entries}
    (adds : addParts front entries = some added) (parts : List Section) :
    addParts (front ++ parts) entries = addParts parts added := by
  rw [addParts, List.foldlM_append]
  rw [addParts] at adds
  rw [adds]
  rfl

/-- What is built from a document that is laid out in sections. -/
theorem build?_statements (pairs : List Entries.Pair) (parts : List Section) :
    build? (pairs.map .pair ++ parts.flatMap Section.statements) =
      (Entries.assignAll pairs []).bind (addParts parts) := by
  rw [build?, sections_statements]
  rfl

/-- Further sections under the heading of an array of tables collect their tables. -/
theorem addParts_tables {key : String} {parts : List Section} {entries : Entries}
    (earlier : List Entries) (latest : Entries) (fresh : key ∉ entries.map Prod.fst)
    (heads : ∀ part ∈ parts, part.heading = .tables [] key)
    (plain : ∀ part ∈ parts, part.Plain) :
    ∃ before last,
      addParts parts (entries ++ [(key, .tables earlier latest)]) =
          some (entries ++ [(key, .tables before last)]) ∧
        before ++ [last] = earlier ++ [latest] ++ parts.map Section.table := by
  induction parts generalizing earlier latest with
  | nil => exact ⟨earlier, latest, rfl, by simp⟩
  | cons part parts induction =>
      have added : part.addTo (entries ++ [(key, .tables earlier latest)]) =
          some (entries ++ [(key, .tables (earlier ++ [latest]) part.table)]) := by
        rw [Section.addTo, heads part List.mem_cons_self]
        exact Entries.append_again fresh (plain part List.mem_cons_self).assignAll
      rcases induction (earlier ++ [latest]) part.table
        (fun other member => heads other (List.mem_cons_of_mem _ member))
        (fun other member => plain other (List.mem_cons_of_mem _ member))
        with ⟨before, last, adds, tables⟩
      refine ⟨before, last, ?_, ?_⟩
      · rw [addParts_cons_of_some added, adds]
      · rw [tables]
        simp

/-! ## Data -/

theorem tablesToTrees_eq (tables : List Entries) :
    tablesToTrees tables = tables.map Entries.toTree := by
  induction tables with
  | nil => rfl
  | cons table tables induction =>
      rw [tablesToTrees, induction]
      rfl

theorem toTree_tables (earlier : List Entries) (latest : Entries) :
    (Node.tables earlier latest).toTree = .list ((earlier ++ [latest]).map Entries.toTree) := by
  rw [Node.toTree, tablesToTrees_eq, List.map_append]
  rfl

/-- The data of a section's table. -/
theorem toTree_table (part : Section) :
    part.table.toTree = .record (part.pairs.map (fun pair => (pair.key, pair.tree))) := by
  have trees (pairs : List Entries.Pair) :
      entriesToTrees (pairs.map Entries.Pair.entry) =
        pairs.map (fun pair => (pair.key, pair.tree)) := by
    induction pairs with
    | nil => rfl
    | cons pair pairs induction =>
        rw [List.map_cons, Entries.Pair.entry, entriesToTrees, induction, Node.toTree]
        rfl
  rw [Entries.toTree, Section.table, trees]

end Leadership.Toml
