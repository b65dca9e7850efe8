import Leadership.Proofs.Config.Validity
import Leadership.Proofs.Routing.Agreement
import Leadership.Query

/-!
# Routes across a cluster

Every node of a cluster has a configuration of its own, and all of them list the
same members.  When their questions are answered by the same leader, the nodes
route in agreement: the leader keeps what it receives, all others forward to the
one endpoint that the leader has, and a leader that is no member is a stranger to
everybody.  The main statement draws from this that a request is forwarded once
and then stays where it is.
-/

namespace Leadership.Config

namespace Valid

variable {config : Config}

/-- The node that leads keeps a request, and another one forwards it to the leader's endpoint. -/
theorem route_member (valid : config.Valid) {member : Member}
    (isMember : member ∈ config.members) :
    (config.route (.ok member.node)).1 =
      if member.node = config.node then .ok .here
      else .ok (.forward member.node member.endpoint) := by
  rw [route]
  split_ifs with leads
  · rfl
  · rw [valid.member?_eq_some_iff.mpr ⟨isMember, rfl⟩]

/-- A valid configuration lists its own node, so that a leader it does not list is another node. -/
theorem route_stranger (valid : config.Valid) {leader : NodeId}
    (stranger : ∀ member ∈ config.members, member.node ≠ leader) :
    (config.route (.ok leader)).1 = .error (.unknownMember leader) := by
  have different : leader ≠ config.node := by
    rintro rfl
    obtain ⟨member, isMember, same⟩ := valid.present
    exact stranger member isMember same
  rw [route, if_neg different, member?_eq_none_iff.mpr stranger]

/-- A request is forwarded to a leader that is another member, at its endpoint. -/
theorem of_route_eq_forward (valid : config.Valid) {leader target : NodeId} {endpoint : Endpoint}
    (forwards : (config.route (.ok leader)).1 = .ok (.forward target endpoint)) :
    target = leader ∧ target ≠ config.node ∧
      ∃ member ∈ config.members, member.node = target ∧ member.endpoint = endpoint := by
  obtain ⟨answered, different, member, found, reached⟩ := answer_of_forward forwards
  obtain rfl : leader = target := Except.ok.inj answered
  obtain ⟨isMember, same⟩ := valid.member?_eq_some_iff.mp found
  exact ⟨rfl, different, member, isMember, same, reached⟩

end Valid

/-! ## The main statement -/

/--
Nodes with valid configurations of the same members, and with the same answer to
their questions, route in agreement.  If a member leads, it is the only one with
its identifier, its node keeps requests and all other nodes forward to its
endpoint; a leader that is no member, such as the reserved identifier, is unknown
to all nodes.  So at most one node keeps requests, nodes forward to the leader and
never to themselves, and a request that is forwarded to the node it names stays
there.
-/
theorem cluster_routes_agree {place : Type} {state : place → Type} (members : List Member)
    (config : place → Config) (ask : ∀ node, Asker (state node)) (current : ∀ node, state node)
    (leader : NodeId) (unpaused : Nat)
    (shared : ∀ node, (config node).members = members)
    (accepted : ∀ node, (config node).validate = .ok ())
    (answered : ∀ node, (ask node (current node)).1 = .ok leader) :
    let routed := fun node =>
      ((config node).consult (ask node) unpaused .route (current node)).1
    (∀ member ∈ members, member.node = leader → ∀ node,
      (∀ other ∈ members, other.node = leader → other = member) ∧
        (routed node = .route (.ok .here) ↔ (config node).node = leader) ∧
        ((config node).node ≠ leader →
          routed node = .route (.ok (.forward leader member.endpoint)))) ∧
      ((∀ member ∈ members, member.node ≠ leader) → ∀ node,
        routed node = .route (.error (.unknownMember leader))) ∧
      (leader = .ofNat 0 → ∀ node, routed node = .route (.error (.unknownMember leader))) ∧
      (∀ first second, routed first = .route (.ok .here) → routed second = .route (.ok .here) →
        (config first).node = (config second).node) ∧
      ∀ node target endpoint, routed node = .route (.ok (.forward target endpoint)) →
        target = leader ∧ target ≠ (config node).node ∧
          (∃ member ∈ members, member.node = target ∧ member.endpoint = endpoint) ∧
          ∀ next, (config next).node = target → routed next = .route (.ok .here) := by
  intro routed
  have valid : ∀ node, (config node).Valid := fun node => validate_eq_ok_iff.mp (accepted node)
  have decided : ∀ node, routed node = .route ((config node).route (.ok leader)).1 := by
    intro node
    exact ((config node).consult_of_answer (ask node) unpaused (answered node)).2.2.1
  have keeps : ∀ node, routed node = .route (.ok .here) ↔ (config node).node = leader := by
    intro node
    rw [decided, Finding.route.injEq, ((config node).agreed (.ok leader)).routed_iff,
      Except.ok.injEq, eq_comm]
  have unknown : ∀ node, (∀ member ∈ members, member.node ≠ leader) →
      routed node = .route (.error (.unknownMember leader)) := by
    intro node stranger
    rw [decided, (valid node).route_stranger (shared node ▸ stranger)]
  refine ⟨?_, ?_, ?_, ?_, ?_⟩
  · rintro member isMember rfl node
    have listed : member ∈ (config node).members := shared node ▸ isMember
    refine ⟨?_, keeps node, ?_⟩
    · intro other isOther same
      exact List.inj_on_of_nodup_map (shared node ▸ (valid node).distinct) isOther isMember same
    · intro different
      rw [decided, (valid node).route_member listed, if_neg different.symm]
  · intro stranger node
    exact unknown node stranger
  · rintro rfl node
    exact unknown node (shared node ▸ (valid node).unreserved)
  · intro first second firstKeeps secondKeeps
    rw [(keeps first).mp firstKeeps, (keeps second).mp secondKeeps]
  · intro node target endpoint forwards
    rw [decided, Finding.route.injEq] at forwards
    obtain ⟨named, different, reached⟩ := (valid node).of_route_eq_forward forwards
    refine ⟨named, different, shared node ▸ reached, ?_⟩
    intro next here
    exact (keeps next).mpr (here.trans named)

/-- The node in a place of three, a quorum without the fourth member. -/
def quorum (place : Fin 3) : Config where
  node := .ofNat (place.val + 1)
  clusterName := "site " ++ place.val.repr
  members :=
    [⟨.ofNat 4, "absent", .v4 ⟨10, 0, 0, 9⟩ 1⟩, ⟨.ofNat 2, "b", .v4 ⟨10, 0, 0, 9⟩ 1⟩,
      ⟨.ofNat 1, "a", .v4 ⟨10, 0, 0, 1⟩ 2380⟩, ⟨.ofNat 3, "c", .v4 ⟨10, 0, 0, 3⟩ 2380⟩]
  patience := .standard

theorem cluster_routes_agree_quorum :
    (∀ place, (quorum place).members = (quorum 0).members) ∧
      (∀ place, (quorum place).validate = .ok ()) ∧
      (World.ask (.fixed (some (.ofNat 2))) .empty).1 = .ok (.ofNat 2) ∧
      ∀ place, ((quorum place).consult (World.ask (.fixed (some (.ofNat 2)))) 0 .route .empty).1 =
        if place = 1 then .route (.ok .here)
        else .route (.ok (.forward (.ofNat 2) (.v4 ⟨10, 0, 0, 9⟩ 1))) := by
  have shared : ∀ place, (quorum place).members = (quorum 0).members := by decide
  have accepted : ∀ place, (quorum place).validate = .ok () := by decide
  have routes := (cluster_routes_agree (quorum 0).members quorum
    (fun _ => World.ask (.fixed (some (.ofNat 2)))) (fun _ => .empty) (.ofNat 2) 0
    shared accepted (fun _ => rfl)).1 ⟨.ofNat 2, "b", .v4 ⟨10, 0, 0, 9⟩ 1⟩ (by decide) rfl
  have second : ∀ place, (quorum place).node = .ofNat 2 ↔ place = 1 := by decide
  refine ⟨shared, accepted, rfl, ?_⟩
  intro place
  obtain ⟨-, keeps, forwards⟩ := routes place
  rw [second] at keeps
  split_ifs with leads
  · exact keeps.mpr leads
  · exact forwards (mt (second place).mp leads)

end Leadership.Config
