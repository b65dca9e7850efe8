import Leadership.Proofs.Routing.Cluster

/-!
# The node's own endpoint

A route is chosen by identifiers, and what is forwarded is delivered to an
endpoint.  Nothing that is checked of a configuration relates the two: members
with different identifiers may have the same endpoint.  So a node never forwards
to its own identifier, and still it may forward to its own endpoint.  The main
statement says when it does: exactly if the member that leads is another one than
the node's own, and is reached at the same endpoint.
-/

namespace Leadership.Config

namespace Valid

variable {config : Config}

/-- The node's own member is the only one with the node's identifier. -/
theorem exists_localMember? (valid : config.Valid) :
    ∃ own, config.localMember? = some own ∧ own ∈ config.members ∧ own.node = config.node ∧
      ∀ member ∈ config.members, member.node = config.node → member = own := by
  obtain ⟨own, isMember, same⟩ := valid.present
  refine ⟨own, valid.member?_eq_some_iff.mpr ⟨isMember, same⟩, isMember, same, ?_⟩
  intro member isOther sameNode
  exact List.inj_on_of_nodup_map valid.distinct isOther isMember (sameNode.trans same.symm)

/-- Requests are forwarded to the member that is said to lead, unless it is the own one. -/
theorem route_eq_forward_iff (valid : config.Valid) {answer : Answer} {leader : NodeId}
    {endpoint : Endpoint} :
    (config.route answer).1 = .ok (.forward leader endpoint) ↔
      answer = .ok leader ∧ leader ≠ config.node ∧
        ∃ member ∈ config.members, member.node = leader ∧ member.endpoint = endpoint := by
  constructor
  · intro forwards
    obtain ⟨answered, different, member, found, delivered⟩ := answer_of_forward forwards
    obtain ⟨isMember, named⟩ := valid.member?_eq_some_iff.mp found
    exact ⟨answered, different, member, isMember, named, delivered⟩
  · rintro ⟨rfl, different, member, isMember, rfl, rfl⟩
    rw [valid.route_member isMember, if_neg different]

theorem consult_eq_forward_iff (valid : config.Valid) {state : Type} {ask : Asker state}
    {unpaused : Nat} {current : state} {leader : NodeId} {endpoint : Endpoint} :
    (config.consult ask unpaused .route current).1 = .route (.ok (.forward leader endpoint)) ↔
      (ask current).1 = .ok leader ∧ leader ≠ config.node ∧
        ∃ member ∈ config.members, member.node = leader ∧ member.endpoint = endpoint := by
  rw [(config.consult_of_answer ask unpaused rfl).2.2.1, Finding.route.injEq,
    valid.route_eq_forward_iff]

end Valid

/-! ## The main statement -/

/--
A node with a valid configuration never forwards to its own identifier.  It
forwards to the endpoint of its own member exactly if the member that leads has
that endpoint too.  So whatever the answers to its questions are, nothing is
forwarded to the node's own endpoint, exactly if no other member has it.
-/
theorem forwards_to_own_endpoint (config : Config) (accepted : config.validate = .ok ()) :
    ∃ own, config.localMember? = some own ∧
      (∀ (state : Type) (ask : Asker state) (unpaused : Nat) (current : state)
          (leader : NodeId) (endpoint : Endpoint),
        (config.consult ask unpaused .route current).1 = .route (.ok (.forward leader endpoint)) →
          leader ≠ own.node ∧
            (endpoint = own.endpoint ↔
              ∃ other ∈ config.members, other.node = leader ∧ other.endpoint = own.endpoint)) ∧
      ((∀ (state : Type) (ask : Asker state) (unpaused : Nat) (current : state)
          (leader : NodeId) (endpoint : Endpoint),
        (config.consult ask unpaused .route current).1 = .route (.ok (.forward leader endpoint)) →
          endpoint ≠ own.endpoint) ↔
        ∀ other ∈ config.members, other.endpoint = own.endpoint → other = own) := by
  have valid : config.Valid := validate_eq_ok_iff.mp accepted
  obtain ⟨own, found, isOwn, same, only⟩ := valid.exists_localMember?
  refine ⟨own, found, ?_, ?_, ?_⟩
  · intro state ask unpaused current leader endpoint forwards
    obtain ⟨-, different, member, isMember, rfl, rfl⟩ := valid.consult_eq_forward_iff.mp forwards
    refine ⟨same.symm ▸ different, ?_, ?_⟩
    · intro returns
      exact ⟨member, isMember, rfl, returns⟩
    · rintro ⟨other, isOther, sameNode, shared⟩
      rwa [List.inj_on_of_nodup_map valid.distinct isOther isMember sameNode] at shared
  · intro never other isOther shared
    by_contra different
    have elsewhere : other.node ≠ config.node := mt (only other isOther) different
    have forwards : (config.consult (World.ask (.fixed (some other.node))) 0 .route .empty).1 =
        .route (.ok (.forward other.node other.endpoint)) :=
      valid.consult_eq_forward_iff.mpr ⟨rfl, elsewhere, other, isOther, rfl, rfl⟩
    exact never _ _ _ _ _ _ forwards shared
  · intro alone state ask unpaused current leader endpoint forwards returns
    obtain ⟨-, different, member, isMember, rfl, delivered⟩ :=
      valid.consult_eq_forward_iff.mp forwards
    rw [alone member isMember (delivered.trans returns)] at different
    exact different same

/-- The second node of the quorum has the endpoint of an absent member, and of no other. -/
theorem forwards_to_own_endpoint_quorum :
    (quorum 1).validate = .ok () ∧
      ∃ own, (quorum 1).localMember? = some own ∧
        (∀ (state : Type) (ask : Asker state) (unpaused : Nat) (current : state)
            (endpoint : Endpoint),
          ((quorum 1).consult ask unpaused .route current).1 =
              .route (.ok (.forward (.ofNat 3) endpoint)) →
            endpoint ≠ own.endpoint) ∧
        ¬∀ other ∈ (quorum 1).members, other.endpoint = own.endpoint → other = own := by
  have accepted : (quorum 1).validate = .ok () := by decide
  obtain ⟨own, found, reaches, -⟩ := forwards_to_own_endpoint (quorum 1) accepted
  obtain rfl : ⟨.ofNat 2, "b", .v4 ⟨10, 0, 0, 9⟩ 1⟩ = own := Option.some.inj found
  refine ⟨accepted, _, found, ?_, by decide⟩
  intro state ask unpaused current endpoint forwards returns
  have shared := (reaches state ask unpaused current _ endpoint forwards).2.mp returns
  exact absurd shared (by decide)

/-- A valid configuration with which a node forwards a request to the endpoint it has itself. -/
theorem forwards_to_shared_endpoint :
    (quorum 1).validate = .ok () ∧
      (quorum 1).localMember? = some ⟨.ofNat 2, "b", .v4 ⟨10, 0, 0, 9⟩ 1⟩ ∧
      ((quorum 1).consult (World.ask (.fixed (some (.ofNat 4)))) 0 .route .empty).1 =
        .route (.ok (.forward (.ofNat 4) (.v4 ⟨10, 0, 0, 9⟩ 1))) := by
  refine ⟨by decide, by decide, ?_⟩
  rw [(consult_of_answer (quorum 1) _ 0 rfl).2.2.1, Finding.route.injEq]
  decide

end Leadership.Config
