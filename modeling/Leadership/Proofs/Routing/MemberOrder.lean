import Leadership.Proofs.Routing.Cluster

/-!
# The order of members

A member is looked up as the first with its identifier, and members are checked
one after the other, so both might depend on the order of the list.  In a valid
configuration nothing does: every identifier belongs to at most one member, and
then the members can be listed in any order.  The main statement says that a
router cannot be consulted for anything but the configuration itself that would
tell the orders apart.
-/

namespace Leadership.Config

/-- The configuration with other members in place of its own. -/
def withMembers (config : Config) (members : List Member) : Config :=
  { config with members := members }

namespace Valid

variable {config : Config} {members : List Member}

/-- The rules speak of the members without regard to their order. -/
theorem withMembers (valid : config.Valid) (reordered : members.Perm config.members) :
    (config.withMembers members).Valid where
  named := valid.named
  populated := by
    intro empty
    apply valid.populated
    rw [← List.nil_perm]
    exact empty ▸ reordered
  unreserved := fun member isMember => valid.unreserved member (reordered.mem_iff.mp isMember)
  distinct := (reordered.map Member.node).nodup_iff.mpr valid.distinct
  present := by
    rcases valid.present with ⟨member, isMember, same⟩
    exact ⟨member, reordered.mem_iff.mpr isMember, same⟩
  unhurried := valid.unhurried
  patient := valid.patient

/-- Whatever the order, looking up an identifier finds the one member that has it. -/
theorem member?_withMembers (valid : config.Valid) (reordered : members.Perm config.members)
    (node : NodeId) : (config.withMembers members).member? node = config.member? node := by
  ext member
  rw [(valid.withMembers reordered).member?_eq_some_iff, valid.member?_eq_some_iff]
  exact and_congr_left fun _ => reordered.mem_iff

theorem route_withMembers (valid : config.Valid) (reordered : members.Perm config.members)
    (answer : Answer) : (config.withMembers members).route answer = config.route answer := by
  cases answer with
  | error fault => rfl
  | ok leader =>
      rw [route, route, valid.member?_withMembers reordered]
      rfl

/-- A status counts the members and does not list them. -/
theorem status_withMembers (reordered : members.Perm config.members) (answer : Answer) :
    (config.withMembers members).status answer = config.status answer := by
  have count : (config.withMembers members).members.length = config.members.length :=
    reordered.length_eq
  unfold status
  rw [count]
  rfl

/-- Only the configuration itself shows the order of its members. -/
theorem consult_withMembers (valid : config.Valid) (reordered : members.Perm config.members)
    {state : Type} (ask : Asker state) (unpaused : Nat) {matter : Matter}
    (other : matter ≠ .config) (current : state) :
    (config.withMembers members).consult ask unpaused matter current =
      config.consult ask unpaused matter current := by
  cases matter with
  | isLeader => rfl
  | ensureLeader => rfl
  | route => simp only [consult, valid.route_withMembers reordered]
  | status => simp only [consult, status_withMembers reordered]
  | statusText => simp only [consult, status_withMembers reordered]
  | config => contradiction
  | validity =>
      rw [consult, consult, validate_eq_ok_iff.mpr valid,
        validate_eq_ok_iff.mpr (valid.withMembers reordered)]
  | wait => rfl

/-- The members of a valid configuration are found by their identifiers, and nobody else is. -/
theorem member?_iff_only (valid : config.Valid) {node : NodeId} {member : Member} :
    config.member? node = some member ↔
      member ∈ config.members ∧ member.node = node ∧
        ∀ other ∈ config.members, other.node = node → other = member := by
  rw [valid.member?_eq_some_iff]
  constructor
  · rintro ⟨isMember, rfl⟩
    refine ⟨isMember, rfl, ?_⟩
    intro other isOther same
    exact List.inj_on_of_nodup_map valid.distinct isOther isMember same
  · rintro ⟨isMember, same, -⟩
    exact ⟨isMember, same⟩

end Valid

/-! ## The main statement -/

/--
The members of a valid configuration can be listed in any order.  The
configuration stays valid, and looking up an identifier finds the same member,
which is the only one that has it: each listed member is found, and an identifier
that is not listed, such as the reserved one, is not.  The node's own member is
the same, and whatever else than the configuration itself a router over it is
consulted for, it asks the same, finds the same and reports the same.
-/
theorem members_in_any_order (config : Config) (members : List Member)
    (accepted : config.validate = .ok ()) (reordered : members.Perm config.members) :
    (config.withMembers members).validate = .ok () ∧
      (∀ node, (config.withMembers members).member? node = config.member? node) ∧
      (∀ node member, config.member? node = some member ↔
        member ∈ config.members ∧ member.node = node ∧
          ∀ other ∈ config.members, other.node = node → other = member) ∧
      (∀ member ∈ config.members, config.member? member.node = some member) ∧
      (∀ node, (∀ member ∈ config.members, member.node ≠ node) → config.member? node = none) ∧
      config.member? (.ofNat 0) = none ∧
      (config.withMembers members).localMember? = config.localMember? ∧
      ∀ (state : Type) (ask : Asker state) (unpaused : Nat) (matter : Matter) (current : state),
        matter ≠ .config →
          (config.withMembers members).consult ask unpaused matter current =
            config.consult ask unpaused matter current := by
  have valid : config.Valid := validate_eq_ok_iff.mp accepted
  refine ⟨?_, ?_, ?_, ?_, ?_, ?_, ?_, ?_⟩
  · exact validate_eq_ok_iff.mpr (valid.withMembers reordered)
  · exact valid.member?_withMembers reordered
  · intro node member
    exact valid.member?_iff_only
  · intro member isMember
    exact valid.member?_eq_some_iff.mpr ⟨isMember, rfl⟩
  · intro node unlisted
    exact member?_eq_none_iff.mpr unlisted
  · exact member?_eq_none_iff.mpr valid.unreserved
  · exact valid.member?_withMembers reordered config.node
  · intro state ask unpaused matter current other
    exact valid.consult_withMembers reordered ask unpaused other current

/-- A quorum with its members the other way round, told that its second node leads. -/
theorem members_in_any_order_reversed :
    let turned := (quorum 0).withMembers (quorum 0).members.reverse
    (quorum 0).validate = .ok () ∧ turned.members.Perm (quorum 0).members ∧ turned ≠ quorum 0 ∧
      turned.validate = .ok () ∧
      turned.member? (.ofNat 2) = some ⟨.ofNat 2, "b", .v4 ⟨10, 0, 0, 9⟩ 1⟩ ∧
      turned.consult (World.ask (.fixed (some (.ofNat 2)))) 0 .route .empty =
        (quorum 0).consult (World.ask (.fixed (some (.ofNat 2)))) 0 .route .empty := by
  intro turned
  have accepted : (quorum 0).validate = .ok () := by
    decide
  have reordered : turned.members.Perm (quorum 0).members := List.reverse_perm _
  rcases members_in_any_order (quorum 0) turned.members accepted reordered with
    ⟨acceptedTurned, found, -, -, -, -, -, consulted⟩
  refine ⟨accepted, reordered, by decide, acceptedTurned, ?_, ?_⟩
  · have same := found (.ofNat 2)
    exact same.trans (by decide)
  · exact consulted _ _ _ _ _ (by decide)

end Leadership.Config
