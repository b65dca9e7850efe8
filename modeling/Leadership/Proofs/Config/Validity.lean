import Leadership.Config
import Mathlib.Data.List.Nodup
import Mathlib.Tactic.SplitIfs

/-!
# Valid configurations

What a configuration has that breaks no rule.  The members are checked one after
the other against those before them, so that all of them differ, and then each
identifier belongs to at most one member: looking a member up finds the only one
there is.
-/

namespace Leadership.Config

/-- A configuration that keeps all rules. -/
structure Valid (config : Config) : Prop where
  named : ¬config.clusterName.isEmpty
  populated : config.members ≠ []
  unreserved : ∀ member ∈ config.members, member.node ≠ .ofNat 0
  distinct : (config.members.map Member.node).Nodup
  /-- The node is one of its own members. -/
  present : ∃ member ∈ config.members, member.node = config.node
  unhurried : shortestPause ≤ config.patience.pause
  patient : config.patience.pause ≤ config.patience.timeout

/-! ## The checks -/

/--
The members break no rule if none is reserved and none repeats another one or
one of those seen before.  The induction is on the members that are left.
-/
theorem memberViolation?_eq_none_iff {seen : List NodeId} {members : List Member} :
    memberViolation? seen members = none ↔
      (∀ member ∈ members, member.node ≠ .ofNat 0) ∧
        (members.map Member.node).Nodup ∧ ∀ member ∈ members, member.node ∉ seen := by
  induction members generalizing seen with
  | nil => simp [memberViolation?]
  | cons member members induction =>
      rw [memberViolation?, List.map_cons, List.nodup_cons, List.forall_mem_cons,
        List.forall_mem_cons]
      split_ifs with reserved repeated
      · simp [reserved]
      · simp [repeated]
      · have apart :
            (∀ other ∈ members, other.node ∉ member.node :: seen) ↔
              member.node ∉ members.map Member.node ∧ ∀ other ∈ members, other.node ∉ seen := by
          simp only [List.mem_cons, not_or, List.mem_map, not_exists, not_and]
          constructor
          · intro fresh
            exact ⟨fun other isOther => (fresh other isOther).1,
              fun other isOther => (fresh other isOther).2⟩
          · rintro ⟨different, fresh⟩ other isOther
            exact ⟨different other isOther, fresh other isOther⟩
        rw [induction, apart]
        tauto

theorem localMember?_isNone_iff {config : Config} :
    config.localMember?.isNone ↔ ¬∃ member ∈ config.members, member.node = config.node := by
  simp [localMember?, member?]

theorem violation?_eq_none_iff {config : Config} : config.violation? = none ↔ config.Valid := by
  rw [violation?]
  constructor
  · intro unbroken
    cases checked : memberViolation? [] config.members with
    | some violation =>
        rw [checked] at unbroken
        split_ifs at unbroken
    | none =>
        obtain ⟨unreserved, distinct, -⟩ := memberViolation?_eq_none_iff.mp checked
        rw [checked] at unbroken
        simp only at unbroken
        split_ifs at unbroken with unnamed empty stranger hasty impatient
        exact {
          named := unnamed
          populated := by simpa using empty
          unreserved := unreserved
          distinct := distinct
          present := not_not.mp (mt localMember?_isNone_iff.mpr stranger)
          unhurried := Nat.le_of_not_lt hasty
          patient := Nat.le_of_not_lt impatient }
  · intro valid
    have checked : memberViolation? [] config.members = none :=
      memberViolation?_eq_none_iff.mpr ⟨valid.unreserved, valid.distinct, by simp⟩
    have known : ¬config.localMember?.isNone := fun stranger =>
      localMember?_isNone_iff.mp stranger valid.present
    have unhurried : ¬config.patience.pause < shortestPause := Nat.not_lt_of_le valid.unhurried
    have patient : ¬config.patience.timeout < config.patience.pause :=
      Nat.not_lt_of_le valid.patient
    rw [if_neg valid.named, if_neg (by simpa using valid.populated), checked]
    simp only
    rw [if_neg known, if_neg unhurried, if_neg patient]

/-- Exactly the configurations that keep all rules are accepted. -/
theorem validate_eq_ok_iff {config : Config} : config.validate = .ok () ↔ config.Valid := by
  rw [← violation?_eq_none_iff, validate]
  cases config.violation? <;> simp

/-! ## Looking up members -/

namespace Valid

variable {config : Config}

/-- Looking up an identifier finds the one member that has it. -/
theorem member?_eq_some_iff (valid : config.Valid) {node : NodeId} {member : Member} :
    config.member? node = some member ↔ member ∈ config.members ∧ member.node = node := by
  constructor
  · intro found
    exact ⟨List.mem_of_find?_eq_some found, by simpa using List.find?_some found⟩
  · rintro ⟨isMember, rfl⟩
    cases found : config.member? member.node with
    | none =>
        have absent := List.find?_eq_none.mp found member isMember
        simp at absent
    | some other =>
        have isOther : other ∈ config.members := List.mem_of_find?_eq_some found
        have same : other.node = member.node := by
          simpa using List.find?_some found
        rw [List.inj_on_of_nodup_map valid.distinct isOther isMember same]

end Valid

end Leadership.Config
