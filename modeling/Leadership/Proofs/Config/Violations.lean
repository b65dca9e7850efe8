import Leadership.Proofs.Config.Validity
import Mathlib.Data.List.TakeDrop

/-!
# Reported violations

A configuration may break several rules at once, and the check reports one of
them.  Which one is said here without the check: each rule is stated by itself,
the rules have an order, and the first broken rule in this order is the reported
one.  Of the members, the first that offends counts, whether its identifier is
reserved or that of an earlier member; a reserved identifier and a repeated one
have the same rank, so that their places in the list decide.
-/

namespace Leadership

namespace Violation

/-- The place of a rule in the order of rules. -/
def rank : Violation → Nat
  | .unnamedCluster => 0
  | .noMembers => 1
  | .reservedMember _ | .repeatedMember _ => 2
  | .strangerToItself _ => 3
  | .hastyPause => 4
  | .impatient => 5

end Violation

namespace Config

/-! ## Offending members -/

/--
The member in a place has the reserved identifier, one of the given identifiers,
or that of a member before it.
-/
def Offends (seen : List NodeId) (members : List Member) (place : Nat) : Prop :=
  ∃ member, members[place]? = some member ∧
    (member.node = .ofNat 0 ∨ member.node ∈ seen ++ (members.take place).map Member.node)

/-- The first place with an offending member, and that member. -/
structure FirstOffence (seen : List NodeId) (members : List Member) (place : Nat)
    (member : Member) : Prop where
  here : members[place]? = some member
  offends : Offends seen members place
  clear : ∀ earlier < place, ¬Offends seen members earlier

theorem toNat_eq_zero_iff {node : NodeId} : node.toNat = 0 ↔ node = .ofNat 0 := by
  rw [← NodeId.toNat_inj]
  rfl

/-- The rule that an offending member breaks. -/
def offence (member : Member) : Violation :=
  if member.node = .ofNat 0 then .reservedMember member.name else .repeatedMember member.node

@[simp]
theorem rank_offence (member : Member) : (offence member).rank = 2 := by
  unfold offence
  split <;> rfl

theorem offends_cons_zero {seen : List NodeId} {member : Member} {members : List Member} :
    Offends seen (member :: members) 0 ↔ member.node = .ofNat 0 ∨ member.node ∈ seen := by
  simp [Offends]

/-- A member that has been passed is one of those seen. -/
theorem offends_cons_succ {seen : List NodeId} {member : Member} {members : List Member}
    {place : Nat} :
    Offends seen (member :: members) (place + 1) ↔
      Offends (member.node :: seen) members place := by
  have passed : ∀ node : NodeId,
      node ∈ seen ++ ((member :: members).take (place + 1)).map Member.node ↔
        node ∈ member.node :: seen ++ (members.take place).map Member.node := by
    intro node
    simp only [List.take_succ_cons, List.map_cons, List.mem_append, List.mem_cons]
    tauto
  simp only [Offends, List.getElem?_cons_succ, passed]

theorem firstOffence_cons_zero {seen : List NodeId} {first member : Member}
    {members : List Member} :
    FirstOffence seen (first :: members) 0 member ↔
      first = member ∧ (first.node = .ofNat 0 ∨ first.node ∈ seen) := by
  constructor
  · intro offence
    exact ⟨by simpa using offence.here, offends_cons_zero.mp offence.offends⟩
  · rintro ⟨rfl, offends⟩
    exact ⟨rfl, offends_cons_zero.mpr offends, by simp⟩

theorem firstOffence_cons_succ {seen : List NodeId} {first member : Member}
    {members : List Member} {place : Nat} :
    FirstOffence seen (first :: members) (place + 1) member ↔
      ¬(first.node = .ofNat 0 ∨ first.node ∈ seen) ∧
        FirstOffence (first.node :: seen) members place member := by
  constructor
  · intro offence
    refine ⟨?_, by simpa using offence.here, offends_cons_succ.mp offence.offends, ?_⟩
    · intro offends
      exact offence.clear 0 place.succ_pos (offends_cons_zero.mpr offends)
    · intro earlier before offends
      exact offence.clear (earlier + 1) (Nat.succ_lt_succ before) (offends_cons_succ.mpr offends)
  · rintro ⟨clear, offence⟩
    refine ⟨by simpa using offence.here, offends_cons_succ.mpr offence.offends, ?_⟩
    rintro (_ | earlier) before offends
    · exact clear (offends_cons_zero.mp offends)
    · exact offence.clear earlier (Nat.lt_of_succ_lt_succ before) (offends_cons_succ.mp offends)

/--
The members are checked up to the first that offends.  The induction is on the
members that are left, while those that were passed go to the seen ones.
-/
theorem memberViolation?_eq_some_iff {seen : List NodeId} {members : List Member}
    {violation : Violation} :
    memberViolation? seen members = some violation ↔
      ∃ place member, FirstOffence seen members place member ∧ offence member = violation := by
  induction members generalizing seen with
  | nil =>
      constructor
      · intro found
        contradiction
      · rintro ⟨place, member, offence, -⟩
        exact absurd offence.here (by simp)
  | cons first members induction =>
      have parted : (∃ place member, FirstOffence seen (first :: members) place member ∧
            offence member = violation) ↔
          (first.node = .ofNat 0 ∨ first.node ∈ seen) ∧ offence first = violation ∨
            ¬(first.node = .ofNat 0 ∨ first.node ∈ seen) ∧
              memberViolation? (first.node :: seen) members = some violation := by
        rw [induction]
        constructor
        · rintro ⟨_ | place, member, offence, rfl⟩
          · rcases firstOffence_cons_zero.mp offence with ⟨rfl, offends⟩
            exact .inl ⟨offends, rfl⟩
          · rcases firstOffence_cons_succ.mp offence with ⟨clear, later⟩
            exact .inr ⟨clear, place, member, later, rfl⟩
        · rintro (⟨offends, same⟩ | ⟨clear, place, member, later, same⟩)
          · exact ⟨0, first, firstOffence_cons_zero.mpr ⟨rfl, offends⟩, same⟩
          · exact ⟨place + 1, member, firstOffence_cons_succ.mpr ⟨clear, later⟩, same⟩
      rw [parted, memberViolation?]
      split_ifs with reserved repeated
      · simp [offence, reserved]
      · simp [offence, reserved, repeated]
      · simp [reserved, repeated]

/-! ## The first broken rule -/

/-- What it means to break a rule, whatever other rules are broken. -/
def Breaks (config : Config) : Violation → Prop
  | .unnamedCluster => config.clusterName = ""
  | .noMembers => config.members = []
  | .reservedMember name => ∃ place member, FirstOffence [] config.members place member ∧
      member.node = .ofNat 0 ∧ member.name = name
  | .repeatedMember node => ∃ place member, FirstOffence [] config.members place member ∧
      member.node ≠ .ofNat 0 ∧ member.node = node
  | .strangerToItself node => config.node = node ∧ ∀ member ∈ config.members, member.node ≠ node
  | .hastyPause => config.patience.pause.nanoseconds < 10 * 1000000
  | .impatient => config.patience.timeout.nanoseconds < config.patience.pause.nanoseconds

/-- A broken rule before which all rules are kept. -/
structure FirstBroken (config : Config) (violation : Violation) : Prop where
  broken : config.Breaks violation
  kept : ∀ other, other.rank < violation.rank → ¬config.Breaks other

theorem offence_eq_reservedMember_iff {member : Member} {name : String} :
    offence member = .reservedMember name ↔ member.node = .ofNat 0 ∧ member.name = name := by
  unfold offence
  split <;> simp [*]

theorem offence_eq_repeatedMember_iff {member : Member} {node : NodeId} :
    offence member = .repeatedMember node ↔ member.node ≠ .ofNat 0 ∧ member.node = node := by
  unfold offence
  split <;> simp [*]

/-- The rules about single members are broken by the first offending member. -/
theorem breaks_iff_of_rank_eq_two {config : Config} {violation : Violation}
    (single : violation.rank = 2) :
    config.Breaks violation ↔ memberViolation? [] config.members = some violation := by
  rw [memberViolation?_eq_some_iff]
  cases violation with
  | reservedMember name => simp only [Breaks, offence_eq_reservedMember_iff]
  | repeatedMember node => simp only [Breaks, offence_eq_repeatedMember_iff]
  | _ => simp [Violation.rank] at single

/-- All rules of a rank below the bound are kept. -/
def KeepsBelow (config : Config) (bound : Nat) : Prop :=
  ∀ other : Violation, other.rank < bound → ¬config.Breaks other

theorem KeepsBelow.succ {config : Config} {bound : Nat} (keeps : config.KeepsBelow bound)
    (next : ∀ other : Violation, other.rank = bound → ¬config.Breaks other) :
    config.KeepsBelow (bound + 1) := by
  intro other below
  rcases Nat.lt_succ_iff_lt_or_eq.mp below with earlier | last
  · exact keeps other earlier
  · exact next other last

/--
A check that looks for a broken rule either finds the first one, or leaves the
rules up to its rank kept and the search to the rest.
-/
theorem KeepsBelow.check {config : Config} {violation found : Violation} {fails : Prop}
    [Decidable fails] {rest : Option Violation} (keeps : config.KeepsBelow violation.rank)
    (finds : (if fails then some violation else rest) = some found)
    (means : fails ↔ config.Breaks violation)
    (only : ∀ other : Violation, other.rank = violation.rank → config.Breaks other →
      config.Breaks violation) :
    config.FirstBroken found ∨ config.KeepsBelow (violation.rank + 1) ∧ rest = some found := by
  by_cases broken : fails
  · rw [if_pos broken] at finds
    cases finds
    exact .inl ⟨means.mp broken, keeps⟩
  · rw [if_neg broken] at finds
    refine .inr ⟨keeps.succ ?_, finds⟩
    intro other same others
    exact broken (means.mpr (only other same others))

theorem KeepsBelow.checkMembers {config : Config} {found : Violation} {rest : Option Violation}
    (keeps : config.KeepsBelow 2)
    (finds : (match memberViolation? [] config.members with
      | some violation => some violation
      | none => rest) = some found) :
    config.FirstBroken found ∨ config.KeepsBelow 3 ∧ rest = some found := by
  cases checked : memberViolation? [] config.members with
  | some first =>
      rw [checked] at finds
      cases finds
      have single : found.rank = 2 := by
        rcases memberViolation?_eq_some_iff.mp checked with ⟨place, member, -, rfl⟩
        exact rank_offence member
      exact .inl ⟨(breaks_iff_of_rank_eq_two single).mpr checked, single ▸ keeps⟩
  | none =>
      rw [checked] at finds
      refine .inr ⟨keeps.succ ?_, finds⟩
      intro other same broken
      have reported := (breaks_iff_of_rank_eq_two same).mp broken
      rw [checked] at reported
      contradiction

theorem isNone_localMember?_iff_breaks {config : Config} :
    config.localMember?.isNone ↔ config.Breaks (.strangerToItself config.node) := by
  rw [localMember?_isNone_iff]
  simp [Breaks]

/-- The checks go through the ranks one after the other and end at the first broken rule. -/
theorem firstBroken_of_violation? {config : Config} {violation : Violation}
    (found : config.violation? = some violation) : config.FirstBroken violation := by
  have keepsNone : config.KeepsBelow Violation.unnamedCluster.rank :=
    fun other below => absurd below other.rank.not_lt_zero
  rw [violation?] at found
  rcases keepsNone.check found String.isEmpty_iff
      (by rintro (_ | _) <;> simp [Violation.rank]) with first | ⟨keepsName, found⟩
  · exact first
  rcases keepsName.check found List.isEmpty_iff
      (by rintro (_ | _) <;> simp [Violation.rank]) with first | ⟨keepsCount, found⟩
  · exact first
  rcases keepsCount.checkMembers found with first | ⟨keepsMembers, found⟩
  · exact first
  rcases keepsMembers.check found isNone_localMember?_iff_breaks
      (by rintro (_ | _) <;> simp +contextual [Violation.rank, Breaks])
    with first | ⟨keepsSelf, found⟩
  · exact first
  rcases keepsSelf.check found Iff.rfl
      (by rintro (_ | _) <;> simp [Violation.rank]) with first | ⟨keepsPause, found⟩
  · exact first
  rcases keepsPause.check found Iff.rfl
      (by rintro (_ | _) <;> simp [Violation.rank]) with first | ⟨-, found⟩
  · exact first
  · contradiction

/-- No two rules are the first broken one. -/
theorem FirstBroken.unique {config : Config} {violation other : Violation}
    (first : config.FirstBroken violation) (second : config.FirstBroken other) :
    violation = other := by
  have same : violation.rank = other.rank := by
    rcases Nat.lt_trichotomy violation.rank other.rank with below | same | above
    · exact absurd first.broken (second.kept violation below)
    · exact same
    · exact absurd second.broken (first.kept other above)
  by_cases single : violation.rank = 2
  · have reported := (breaks_iff_of_rank_eq_two single).mp first.broken
    rw [(breaks_iff_of_rank_eq_two (same ▸ single)).mp second.broken] at reported
    exact (Option.some.inj reported).symm
  · cases violation <;> cases other <;> simp [Violation.rank] at same single ⊢
    exact first.broken.1.symm.trans second.broken.1

/-- A valid configuration breaks none of the rules, each taken by itself. -/
theorem Valid.keeps {config : Config} (valid : config.Valid) (violation : Violation) :
    ¬config.Breaks violation := by
  have unreported : memberViolation? [] config.members = none :=
    memberViolation?_eq_none_iff.mpr ⟨valid.unreserved, valid.distinct, by simp⟩
  intro broken
  cases violation with
  | unnamedCluster => exact valid.named (String.isEmpty_iff.mpr broken)
  | noMembers => exact valid.populated broken
  | reservedMember name =>
      rw [breaks_iff_of_rank_eq_two rfl, unreported] at broken
      contradiction
  | repeatedMember node =>
      rw [breaks_iff_of_rank_eq_two rfl, unreported] at broken
      contradiction
  | strangerToItself node =>
      rcases broken with ⟨rfl, absent⟩
      rcases valid.present with ⟨member, isMember, same⟩
      exact absent member isMember same
  | hastyPause => exact Nat.not_lt_of_le valid.unhurried broken
  | impatient => exact Nat.not_lt_of_le valid.patient broken

/-- The reported violation is the first broken rule. -/
theorem violation?_eq_some_iff {config : Config} {violation : Violation} :
    config.violation? = some violation ↔ config.FirstBroken violation := by
  constructor
  · exact firstBroken_of_violation?
  · intro first
    cases found : config.violation? with
    | some other => rw [first.unique (firstBroken_of_violation? found)]
    | none => exact absurd first.broken ((violation?_eq_none_iff.mp found).keeps violation)

theorem validate_of_firstBroken {config : Config} {violation : Violation}
    (first : config.FirstBroken violation) :
    config.validate = .error (.configuration violation.message) := by
  rw [validate, violation?_eq_some_iff.mpr first]
  rfl

/-- In a cluster with a name, the first offending member is reported. -/
theorem FirstOffence.firstBroken {config : Config} {place : Nat} {member : Member}
    (named : config.clusterName ≠ "") (first : FirstOffence [] config.members place member) :
    config.FirstBroken (offence member) := by
  have reported : memberViolation? [] config.members = some (offence member) :=
    memberViolation?_eq_some_iff.mpr ⟨place, member, first, rfl⟩
  refine ⟨(breaks_iff_of_rank_eq_two (rank_offence member)).mpr reported, ?_⟩
  intro other below broken
  rw [rank_offence] at below
  cases other with
  | unnamedCluster => exact named broken
  | noMembers =>
      have here := first.here
      rw [show config.members = [] from broken] at here
      contradiction
  | _ => simp [Violation.rank] at below

theorem valid_iff {config : Config} :
    config.Valid ↔
      config.clusterName ≠ "" ∧ config.members ≠ [] ∧
        (∀ member ∈ config.members, member.node.toNat ≠ 0) ∧
        (config.members.map Member.node).Nodup ∧
        (∃ member ∈ config.members, member.node = config.node) ∧
        10 * 1000000 ≤ config.patience.pause.nanoseconds ∧
        config.patience.pause.nanoseconds ≤ config.patience.timeout.nanoseconds := by
  have reserved : ∀ node : NodeId, node.toNat ≠ 0 ↔ node ≠ .ofNat 0 :=
    fun _ => toNat_eq_zero_iff.not
  constructor
  · intro valid
    exact ⟨mt String.isEmpty_iff.mpr valid.named, valid.populated,
      fun member isMember => (reserved _).mpr (valid.unreserved member isMember),
      valid.distinct, valid.present, valid.unhurried, valid.patient⟩
  · rintro ⟨named, populated, unreserved, distinct, present, unhurried, patient⟩
    exact {
      named := mt String.isEmpty_iff.mp named
      populated := populated
      unreserved := fun member isMember => (reserved _).mp (unreserved member isMember)
      distinct := distinct
      present := present
      unhurried := unhurried
      patient := patient }

/-! ## The main statement -/

/--
A configuration is accepted exactly if its cluster has a name, it has members,
none with the reserved identifier and no two with the same one, its own node is
one of them, the pause is at least ten milliseconds and the timeout at least as
long as the pause.  Otherwise exactly one broken rule is the first, and the text
of the fault tells which.  Among the members, the first that has the reserved
identifier or that of an earlier member is reported, by its name in the one case
and by its identifier in the other.
-/
theorem validate_first_violation (config : Config) :
    (config.validate = .ok () ↔
      config.clusterName ≠ "" ∧ config.members ≠ [] ∧
        (∀ member ∈ config.members, member.node.toNat ≠ 0) ∧
        (config.members.map Member.node).Nodup ∧
        (∃ member ∈ config.members, member.node = config.node) ∧
        10 * 1000000 ≤ config.patience.pause.nanoseconds ∧
        config.patience.pause.nanoseconds ≤ config.patience.timeout.nanoseconds) ∧
      (config.validate ≠ .ok () → ∃! violation, config.FirstBroken violation) ∧
      (∀ violation, config.FirstBroken violation →
        config.validate = .error (.configuration (match violation with
          | .unnamedCluster => "Cluster name cannot be empty"
          | .noMembers => "At least one cluster member must be configured"
          | .reservedMember name => "Member '" ++ name ++ "' uses reserved node id 0"
          | .repeatedMember node => "Duplicate member id " ++ node.toNat.repr
          | .strangerToItself node =>
              "Local node " ++ node.toNat.repr ++ " is not among the configured members"
          | .hastyPause => "Leader poll interval must be at least 10ms"
          | .impatient => "Leader wait timeout must not be shorter than the poll interval"))) ∧
      ∀ place member, config.clusterName ≠ "" → FirstOffence [] config.members place member →
        config.validate = .error (.configuration
          (if member.node.toNat = 0 then "Member '" ++ member.name ++ "' uses reserved node id 0"
          else "Duplicate member id " ++ member.node.toNat.repr)) := by
  refine ⟨validate_eq_ok_iff.trans valid_iff, ?_, ?_, ?_⟩
  · intro refused
    cases found : config.violation? with
    | none => exact absurd (validate_eq_ok_iff.mpr (violation?_eq_none_iff.mp found)) refused
    | some violation =>
        have first := violation?_eq_some_iff.mp found
        exact ⟨violation, first, fun other second => second.unique first⟩
  · intro violation first
    rw [validate_of_firstBroken first]
    cases violation <;> rfl
  · intro place member named first
    rw [validate_of_firstBroken (first.firstBroken named), offence]
    simp only [toNat_eq_zero_iff]
    split
    · rfl
    · rfl

/-- A repeated identifier counts before a later reserved one, and both before the pause. -/
example : ({ Config.standard with
    members := [⟨.ofNat 1, "a", .v4 ⟨10, 0, 0, 1⟩ 1⟩, ⟨.ofNat 1, "b", .v4 ⟨10, 0, 0, 2⟩ 1⟩,
      ⟨.ofNat 0, "c", .v4 ⟨10, 0, 0, 3⟩ 1⟩]
    patience := ⟨.ofMilliseconds 1, .ofMilliseconds 1⟩ } : Config).violation? =
      some (.repeatedMember (.ofNat 1)) := by
  decide

end Config

end Leadership
