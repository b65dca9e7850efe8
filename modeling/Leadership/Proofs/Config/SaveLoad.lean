import Mathlib.Algebra.Group.Nat.Defs
import Leadership.Config.File
import Leadership.Proofs.Config.Trees
import Leadership.Proofs.Toml.Lines
import Leadership.Proofs.Toml.Sections

/-!
# Configurations that are saved and loaded

The document of a configuration has lines that are read back as its sections, and
the sections build the configuration's own tree.  So whatever is saved is loaded
again, and only numbers beyond the greatest integer of a document keep a
configuration from being saved.
-/

namespace Leadership.Config

open Toml

/-! ## The sections of a configuration -/

/-- The pairs in front of the first heading; without members there is an empty array. -/
def rootPairs (config : Config) : List Entries.Pair :=
  [⟨[], "node_id", .nat config.node.toNat⟩, ⟨[], "cluster_name", .text config.clusterName⟩] ++
    (if config.members.isEmpty then [⟨[], "members", .list []⟩] else [])

def memberSection (member : Member) : Section :=
  ⟨.tables [] "members",
    [⟨[], "id", .nat member.node.toNat⟩, ⟨[], "name", .text member.name⟩,
      ⟨[], "peer_address", .text member.endpoint.text⟩]⟩

def spanSection (name : String) (span : Span) : Section :=
  ⟨.table ["leader_wait"] name,
    [⟨[], "secs", .nat span.seconds⟩, ⟨[], "nanos", .nat span.subsecond⟩]⟩

def parts (config : Config) : List Section :=
  config.members.map memberSection ++
    [spanSection "timeout" config.patience.timeout,
      spanSection "poll_interval" config.patience.pause]

theorem statements_memberLines (members : List Member) :
    (members.flatMap memberLines).map Line.statement =
      (members.map memberSection).flatMap Section.statements := by
  induction members with
  | nil => rfl
  | cons member members induction =>
      rw [List.flatMap_cons, List.map_append, induction]
      rfl

/-- The lines of a configuration say its sections. -/
theorem statements_lines (config : Config) :
    config.lines.map Line.statement =
      config.rootPairs.map .pair ++ config.parts.flatMap Section.statements := by
  rw [lines, rootPairs, parts]
  simp only [List.map_append, statements_memberLines, List.flatMap_append, List.append_assoc]
  split
  · rfl
  · rfl

theorem plain_memberSection (member : Member) : (memberSection member).Plain where
  noPaths := by
    simp [memberSection]
  noRepeats := by
    show ["id", "name", "peer_address"].Nodup
    decide

theorem plain_spanSection (name : String) (span : Span) : (spanSection name span).Plain where
  noPaths := by
    simp [spanSection]
  noRepeats := by
    show ["secs", "nanos"].Nodup
    decide

theorem toTree_memberSection (member : Member) :
    (memberSection member).table.toTree = Encode.member member := by
  rw [toTree_table]
  rfl

theorem toTree_spanSection (name : String) (span : Span) :
    (spanSection name span).table.toTree = Encode.span span := by
  rw [toTree_table]
  rfl

/-! ## The tree of a configuration -/

/-- The entries in front of the members. -/
def frontEntries (config : Config) : Entries :=
  [("node_id", .value (.nat config.node.toNat)),
    ("cluster_name", .value (.text config.clusterName))]

theorem assignAll_rootPairs (config : Config) :
    Entries.assignAll config.rootPairs [] = some (config.rootPairs.map Entries.Pair.entry) := by
  apply Entries.assignAll_of_fresh
  · rw [rootPairs]
    split
    · simp
    · simp
  · rw [rootPairs]
    split
    · show ["node_id", "cluster_name", "members"].Nodup
      decide
    · show ["node_id", "cluster_name"].Nodup
      decide

theorem addParts_members (config : Config) :
    ∃ node,
      addParts (config.members.map memberSection) (config.rootPairs.map Entries.Pair.entry) =
          some (config.frontEntries ++ [("members", node)]) ∧
        node.toTree = .list (config.members.map Encode.member) := by
  have fresh : "members" ∉ config.frontEntries.map Prod.fst := by
    show "members" ∉ ["node_id", "cluster_name"]
    decide
  cases shape : config.members with
  | nil =>
      refine ⟨.value (.list []), ?_, rfl⟩
      rw [rootPairs, shape]
      rfl
  | cons member members =>
      have front : config.rootPairs.map Entries.Pair.entry = config.frontEntries := by
        rw [rootPairs, shape]
        rfl
      have first : (memberSection member).addTo config.frontEntries =
          some (config.frontEntries ++ [("members", .tables [] (memberSection member).table)]) :=
        Entries.append_of_fresh fresh (plain_memberSection member).assignAll
      have heads : ∀ part ∈ members.map memberSection, part.heading = .tables [] "members" := by
        intro part isPart
        rcases List.mem_map.mp isPart with ⟨other, -, rfl⟩
        rfl
      have plain : ∀ part ∈ members.map memberSection, part.Plain := by
        intro part isPart
        rcases List.mem_map.mp isPart with ⟨other, -, rfl⟩
        exact plain_memberSection other
      rcases addParts_tables [] (memberSection member).table fresh heads plain
        with ⟨before, last, adds, tables⟩
      refine ⟨.tables before last, ?_, ?_⟩
      · rw [front, List.map_cons, addParts_cons_of_some first, adds]
      · rw [toTree_tables, tables]
        simp [toTree_memberSection, Function.comp_def]

/-- The entry of the patience, a table that only its two parts imply. -/
def waitNode (patience : Patience) : Node :=
  .table .implied
    [("timeout", .table .declared (spanSection "timeout" patience.timeout).table),
      ("poll_interval", .table .declared (spanSection "poll_interval" patience.pause).table)]

theorem toTree_waitNode (patience : Patience) :
    (waitNode patience).toTree = Encode.patience patience := by
  rw [Encode.patience, ← toTree_spanSection "timeout", ← toTree_spanSection "poll_interval"]
  rfl

theorem build?_lines (config : Config) :
    ∃ entries,
      build? (config.lines.map Line.statement) = some entries ∧
        entries.toTree = Encode.config config := by
  rcases addParts_members config with ⟨node, members, trees⟩
  have fresh : "leader_wait" ∉ (config.frontEntries ++ [("members", node)]).map Prod.fst := by
    show "leader_wait" ∉ ["node_id", "cluster_name", "members"]
    decide
  have another : "poll_interval" ∉
      [("timeout",
        Node.table .declared (spanSection "timeout" config.patience.timeout).table)].map
          Prod.fst := by
    show "poll_interval" ∉ ["timeout"]
    decide
  have timeout := (plain_spanSection "timeout" config.patience.timeout).addTo_of_fresh rfl fresh
  have pause := (plain_spanSection "poll_interval" config.patience.pause).addTo_again .implied rfl
    fresh another
  refine ⟨config.frontEntries ++ [("members", node)] ++
    [("leader_wait", waitNode config.patience)], ?_, ?_⟩
  · rw [statements_lines, build?_statements, assignAll_rootPairs, Option.bind_some, parts,
      addParts_append_of_some members, addParts_cons_of_some timeout, addParts_cons_of_some pause]
    rfl
  · rw [Encode.config, ← trees, ← toTree_waitNode]
    rfl

/-! ## The text of a configuration -/

/-- A configuration all of whose numbers fit an integer of a document. -/
structure Fits (config : Config) : Prop where
  node : config.node.toNat ≤ greatestInt
  members : ∀ member ∈ config.members, member.node.toNat ≤ greatestInt
  timeout : config.patience.timeout.seconds ≤ greatestInt
  pause : config.patience.pause.seconds ≤ greatestInt

theorem numbers_all_isWritable_iff {config : Config} :
    config.numbers.all isWritable = true ↔ config.Fits := by
  rw [List.all_eq_true]
  constructor
  · intro all
    have fits : ∀ number ∈ config.numbers, number ≤ greatestInt :=
      fun number member => of_decide_eq_true (all number member)
    exact {
      node := fits _ (by simp [numbers])
      members := fun member isMember => fits _ (by
        simp only [numbers, List.cons_append, List.mem_cons, List.mem_append]
        exact .inr (.inl (List.mem_map_of_mem isMember)))
      timeout := fits _ (by simp [numbers])
      pause := fits _ (by simp [numbers]) }
  · intro fits number isNumber
    apply decide_eq_true
    simp only [numbers, List.cons_append, List.mem_cons, List.mem_append, List.mem_map,
      List.not_mem_nil, or_false] at isNumber
    rcases isNumber with rfl | ⟨member, isMember, rfl⟩ | rfl | rfl
    · exact fits.node
    · exact fits.members member isMember
    · exact fits.timeout
    · exact fits.pause

theorem readable_memberLines {member : Member} (fits : member.node.toNat ≤ greatestInt) :
    ∀ line ∈ memberLines member, line.Readable := by
  have heading : (Line.tables "members").Readable := by
    show IsBareKey "members"
    decide
  rw [memberLines, List.forall_mem_cons, List.forall_mem_cons, List.forall_mem_cons,
    List.forall_mem_cons]
  exact ⟨heading, .pair (by decide) fits, .pair (by decide) trivial,
    .pair (by decide) trivial, List.forall_mem_nil _⟩

theorem readable_spanLines {name : String} (bare : IsBareKey name) {span : Span}
    (fits : span.seconds ≤ greatestInt) :
    ∀ line ∈ spanLines name span, line.Readable := by
  have heading : (Line.table ["leader_wait"] name).Readable := by
    constructor
    · decide
    · intro part isPart
      rcases List.mem_cons.mp isPart with rfl | isName
      · decide
      · rw [List.mem_singleton.mp isName]
        exact bare
  have short : span.subsecond ≤ greatestInt :=
    Nat.le_of_lt (Nat.lt_trans span.subsecond_lt (by decide))
  rw [spanLines, List.forall_mem_cons, List.forall_mem_cons, List.forall_mem_cons]
  exact ⟨heading, .pair (by decide) fits, .pair (by decide) short,
    List.forall_mem_nil _⟩

/-- Fitting numbers are all that a configuration needs to be read back. -/
theorem Fits.readable_lines {config : Config} (fits : config.Fits) :
    ∀ line ∈ config.lines, line.Readable := by
  intro line isLine
  simp only [lines, List.mem_append] at isLine
  rcases isLine with (((isFront | isEmpty) | isMember) | isTimeout) | isPause
  · revert line
    rw [List.forall_mem_cons, List.forall_mem_cons]
    exact ⟨.pair (by decide) fits.node, .pair (by decide) trivial,
      List.forall_mem_nil _⟩
  · split at isEmpty
    · rw [List.mem_singleton.mp isEmpty]
      exact .pair (by decide) trivial
    · exact absurd isEmpty List.not_mem_nil
  · rcases List.mem_flatMap.mp isMember with ⟨member, inMembers, inLines⟩
    exact readable_memberLines (fits.members member inMembers) line inLines
  · exact readable_spanLines (by decide) fits.timeout line isTimeout
  · exact readable_spanLines (by decide) fits.pause line isPause

theorem Fits.tree?_writeLines {config : Config} (fits : config.Fits) :
    tree? (writeLines config.lines) = some (Encode.config config) := by
  rcases build?_lines config with ⟨entries, builds, trees⟩
  rw [tree?, statements?_writeLines fits.readable_lines]
  simp only [Option.bind_eq_bind, Option.bind_some, builds, trees]
  rfl

theorem Fits.ofDocument_writeLines {config : Config} (fits : config.Fits) :
    ofDocument (writeLines config.lines) = .ok config := by
  rw [ofDocument, fits.tree?_writeLines]
  show (Decode.config .ignored (Encode.config config)).mapError DocumentFault.mismatch = _
  rw [Decode.config_encode]
  rfl

/-! ## Saving and loading -/

theorem toDocument?_eq_some_iff {config : Config} {text : String} :
    config.toDocument? = some text ↔ config.Fits ∧ text = writeLines config.lines := by
  rw [toDocument?, ← numbers_all_isWritable_iff]
  split
  · next all => simp [all, eq_comm]
  · next notAll => simp [notAll]

theorem read_of_write {place written : Place} {text : String}
    (writes : place.write text = .ok written) :
    written.read = .ok text := by
  have valid : text.toUTF8.IsValidUTF8 := text.isValidUTF8
  have decodes : String.fromUTF8? text.toUTF8 = some text := by
    rw [String.fromUTF8?, dif_pos valid]
    rfl
  cases place with
  | vacant =>
      rw [← Except.ok.inj writes, Place.read, decodes]
  | file content =>
      rw [← Except.ok.inj writes, Place.read, decodes]
  | directory => exact absurd writes (by simp [Place.write])
  | inMissingDirectory => exact absurd writes (by simp [Place.write])
  | belowFile => exact absurd writes (by simp [Place.write])

/-- Where a text can be written at all, exactly the fitting configurations are saved. -/
theorem save_eq_ok_iff {config : Config} {place : Place}
    (writable : ∀ text, ∃ written, place.write text = .ok written) :
    (config.save place).1 = .ok () ↔ config.Fits := by
  constructor
  · intro saved
    cases document : config.toDocument? with
    | none => simp [save, document] at saved
    | some text => exact (toDocument?_eq_some_iff.mp document).1
  · intro fits
    rcases writable (writeLines config.lines) with ⟨written, writes⟩
    simp [save, toDocument?_eq_some_iff.mpr ⟨fits, rfl⟩, writes]

/-- What is saved is loaded again. -/
theorem load_of_save {config : Config} {place : Place} (saved : (config.save place).1 = .ok ()) :
    load (config.save place).2 = .ok config := by
  cases document : config.toDocument? with
  | none => simp [save, document] at saved
  | some text =>
      rcases toDocument?_eq_some_iff.mp document with ⟨fits, rfl⟩
      cases writes : place.write (writeLines config.lines) with
      | error cause => simp [save, document, writes] at saved
      | ok written =>
          have isWritten : (config.save place).2 = written := by
            simp [save, document, writes]
          rw [isWritten, load, read_of_write writes]
          show (ofDocument (writeLines config.lines)).mapError LoadFault.document = _
          rw [fits.ofDocument_writeLines]
          rfl

/--
On a fresh path and on a file, whatever it holds, exactly the configurations
with fitting identifiers and whole seconds are saved, and each is loaded again
as it was.
-/
theorem save_then_load (config : Config) (place : Place)
    (writable : place = .vacant ∨ ∃ content, place = .file content) :
    ((config.save place).1 = .ok () ↔
        config.node.toNat ≤ 2 ^ 63 - 1 ∧
          (∀ member ∈ config.members, member.node.toNat ≤ 2 ^ 63 - 1) ∧
          config.patience.timeout.seconds ≤ 2 ^ 63 - 1 ∧
          config.patience.pause.seconds ≤ 2 ^ 63 - 1) ∧
      ((config.save place).1 = .ok () → load (config.save place).2 = .ok config) := by
  have writes : ∀ text, ∃ written, place.write text = .ok written := by
    intro text
    rcases writable with rfl | ⟨content, rfl⟩
    · exact ⟨.file text.toUTF8, rfl⟩
    · exact ⟨.file text.toUTF8, rfl⟩
  refine ⟨?_, load_of_save⟩
  rw [save_eq_ok_iff writes]
  constructor
  · intro fits
    exact ⟨fits.node, fits.members, fits.timeout, fits.pause⟩
  · rintro ⟨node, members, timeout, pause⟩
    exact ⟨node, members, timeout, pause⟩

/-- A configuration with the greatest integer, all kinds of quotes, and every form of address. -/
def awkward : Config where
  node := .ofNat (2 ^ 63 - 1)
  clusterName := "\t'''\\\"\"\"\"\n\x00"
  members :=
    [⟨.ofNat 0, "", .v4 ⟨127, 0, 0, 1⟩ 2380⟩,
      ⟨.ofNat 0, "it's \"here\"", .v6 ⟨[0, 0, 0, 0, 0, 0xffff, 0x7f00, 1], rfl⟩ 7 0⟩,
      ⟨.ofNat 1, "\n''\"\"", .v6 ⟨[0xfe80, 0, 0, 1, 0, 0, 0, 2], rfl⟩ 0 65535⟩]
  patience := ⟨⟨0, by decide⟩, ⟨1, by decide⟩⟩

theorem save_then_load_awkward :
    (awkward.save (.file "node_id = 1".toUTF8)).1 = .ok () ∧
      load (awkward.save (.file "node_id = 1".toUTF8)).2 = .ok awkward := by
  have both := save_then_load awkward (.file "node_id = 1".toUTF8) (.inr ⟨_, rfl⟩)
  have saved := both.1.mpr ⟨by decide, by decide, by decide, by decide⟩
  exact ⟨saved, both.2 saved⟩

end Leadership.Config
