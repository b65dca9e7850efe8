import Leadership.Consult
import Mathlib.Tactic.SplitIfs

/-!
# Agreement of decisions

A router decides four questions from one answer in four different ways.  The main
statement says that they never contradict each other: whatever the configuration
and the answer, and in whatever states of the asker the four are decided, exactly
one node is told that it leads, and all that is told about another leader or about
a fault is the same.
-/

namespace Leadership

namespace Config

/-! ## Looking up members -/

theorem member?_eq_some_iff {config : Config} {node : NodeId} {member : Member} :
    config.member? node = some member ↔
      member.node = node ∧
        ∃ before behind, config.members = before ++ member :: behind ∧
          ∀ earlier ∈ before, earlier.node ≠ node := by
  simp only [member?, List.find?_eq_some_iff_append, beq_iff_eq, Bool.not_eq_true',
    beq_eq_false_iff_ne]

theorem member?_eq_none_iff {config : Config} {node : NodeId} :
    config.member? node = none ↔ ∀ member ∈ config.members, member.node ≠ node := by
  simp only [member?, List.find?_eq_none, beq_iff_eq]

/-! ## The four decisions -/

/-- What four decisions on the same answer must have in common. -/
structure Agreed (config : Config) (answer : Answer) (leads : Except Fault Bool)
    (checked : Except Fault Unit) (routed : Except Fault Route) (reported : List Event)
    (seen : Status) : Prop where
  leads_iff : leads = .ok true ↔ answer = .ok config.node
  checked_iff : checked = .ok () ↔ answer = .ok config.node
  routed_iff : routed = .ok .here ↔ answer = .ok config.node
  seen_iff : seen.isLeader = true ↔ answer = .ok config.node
  /-- Another node leads. -/
  follows : ∀ leader, answer = .ok leader → leader ≠ config.node →
    leads = .ok false ∧
      checked = .error (.notLeader (some leader)) ∧
      seen.leader = some leader ∧ seen.isLeader = false ∧ seen.error = none
  /--
  The first member with the leader's identifier receives what is forwarded, or
  there is none and a warning names the leader together with the cluster.
  -/
  routes : ∀ leader, answer = .ok leader → leader ≠ config.node →
    (∃ before member behind,
      config.members = before ++ member :: behind ∧
        (∀ earlier ∈ before, earlier.node ≠ leader) ∧ member.node = leader ∧
        routed = .ok (.forward leader member.endpoint) ∧ reported = []) ∨
    ((∀ member ∈ config.members, member.node ≠ leader) ∧
      routed = .error (.unknownMember leader) ∧
      ∃ event, reported = [event] ∧ event.level = .warn ∧
        event.message =
          "Leader " ++ leader.text ++ " is not a member of cluster " ++ config.clusterName)
  /-- There is no answer. -/
  fails : ∀ fault, answer = .error fault →
    leads = .error fault ∧ routed = .error fault ∧ reported = [] ∧
      checked = .error (if fault = .noLeader then .notLeader none else fault) ∧
      seen.leader = none ∧ seen.isLeader = false ∧ seen.error = some fault.message

variable (config : Config)

/-- A node that is told that it leads sees itself lead and keeps what it receives. -/
theorem agreed_local : config.Agreed (.ok config.node) (.ok true) (.ok ()) (.ok .here) []
    (config.status (.ok config.node)) where
  leads_iff := by simp
  checked_iff := by simp
  routed_iff := by simp
  seen_iff := by simp [status, Except.toOption]
  follows leader same different := by cases same; contradiction
  routes leader same different := by cases same; contradiction
  fails fault impossible := by contradiction

theorem agreed_fault (fault : Fault) :
    config.Agreed (.error fault) (config.isLeader (.error fault))
      (config.ensureLeader (.error fault)) (config.route (.error fault)).1
      (config.route (.error fault)).2 (config.status (.error fault)) := by
  have checked : config.ensureLeader (.error fault) =
      .error (if fault = .noLeader then .notLeader none else fault) := by
    cases fault <;> rfl
  constructor
  · simp [isLeader, Except.map]
  · simp [checked]
  · simp [route]
  · simp [status, Except.toOption]
  · intro leader impossible
    contradiction
  · intro leader impossible
    contradiction
  · intro other same
    cases same
    exact ⟨rfl, rfl, rfl, checked, rfl, by simp [status, Except.toOption], rfl⟩

theorem agreed_follower {leader : NodeId} (different : leader ≠ config.node) :
    config.Agreed (.ok leader) (.ok false) (.error (.notLeader (some leader)))
      (config.route (.ok leader)).1 (config.route (.ok leader)).2 (config.status (.ok leader)) := by
  have unseen : (config.status (.ok leader)).isLeader = false := by
    simpa [status, Except.toOption] using different
  constructor
  · simpa using different
  · simpa using different
  · simp only [route, if_neg different]
    split <;> simpa using different
  · simpa [unseen] using different
  · rintro _ ⟨⟩ -
    exact ⟨rfl, rfl, rfl, unseen, rfl⟩
  · rintro _ ⟨⟩ -
    cases found : config.member? leader with
    | some member =>
        obtain ⟨same, before, behind, listed, earlier⟩ := member?_eq_some_iff.mp found
        refine Or.inl ⟨before, member, behind, listed, earlier, same, ?_, ?_⟩
        · simp only [route, if_neg different, found]
        · simp only [route, if_neg different, found]
    | none =>
        refine Or.inr ⟨member?_eq_none_iff.mp found, ?_, ?_⟩
        · simp only [route, if_neg different, found]
        · refine ⟨.strangerLeads leader config.clusterName, ?_, rfl, rfl⟩
          simp only [route, if_neg different, found]
  · intro fault impossible
    contradiction

/-- The four decisions on one answer agree. -/
theorem agreed (answer : Answer) :
    config.Agreed answer (config.isLeader answer) (config.ensureLeader answer)
      (config.route answer).1 (config.route answer).2 (config.status answer) := by
  cases answer with
  | error fault => exact config.agreed_fault fault
  | ok leader =>
      by_cases same : leader = config.node
      · subst same
        simpa [isLeader, ensureLeader, route, Except.map] using config.agreed_local
      · have unled : config.isLeader (.ok leader) = .ok false := by
          simp [isLeader, Except.map, same]
        rw [unled, ensureLeader, if_neg same]
        exact config.agreed_follower same

/-- The decisions that take one question are made by its answer. -/
theorem consult_of_answer {state : Type} (ask : Asker state) (unpaused : Nat)
    {current : state} {answer : Answer} (answered : (ask current).1 = answer) :
    (config.consult ask unpaused .isLeader current).1 = .isLeader (config.isLeader answer) ∧
      (config.consult ask unpaused .ensureLeader current).1 =
        .checked (config.ensureLeader answer) ∧
      (config.consult ask unpaused .route current).1 = .route (config.route answer).1 ∧
      (config.consult ask unpaused .status current).1 = .status (config.status answer) := by
  subst answered
  exact ⟨rfl, rfl, rfl, rfl⟩

/-- What is forwarded goes to the leader of the answer, at the endpoint it is configured with. -/
theorem answer_of_forward {config : Config} {answer : Answer} {target : NodeId}
    {endpoint : Endpoint} (forwards : (config.route answer).1 = .ok (.forward target endpoint)) :
    answer = .ok target ∧ target ≠ config.node ∧
      ∃ member, config.member? target = some member ∧ member.endpoint = endpoint := by
  cases answer with
  | error fault => contradiction
  | ok leader =>
      by_cases leads : leader = config.node
      · rw [route, if_pos leads] at forwards
        simp at forwards
      · rw [route, if_neg leads] at forwards
        cases found : config.member? leader with
        | none => simp [found] at forwards
        | some member =>
            obtain ⟨rfl, rfl⟩ : leader = target ∧ member.endpoint = endpoint := by
              simpa [found] using forwards
            exact ⟨rfl, leads, member, found, rfl⟩

/-! ## The main statement -/

/--
Whenever four decisions see the same answer, in whatever states they ask for it,
they agree.  Each asks once, and only the route adds to the events of its
question.
-/
theorem consultations_agree {state : Type} (config : Config) (answer : Answer)
    (ask : Asker state) (unpaused : Nat) (first second third fourth : state)
    (seen : ∀ current ∈ [first, second, third, fourth], (ask current).1 = answer) :
    ∃ leads checked routed reported status,
      config.Agreed answer leads checked routed reported status ∧
      config.consult ask unpaused .isLeader first = (.isLeader leads, (ask first).2) ∧
      config.consult ask unpaused .ensureLeader second = (.checked checked, (ask second).2) ∧
      config.consult ask unpaused .route third =
        (.route routed, (ask third).2.1 ++ reported, (ask third).2.2) ∧
      config.consult ask unpaused .status fourth = (.status status, (ask fourth).2) := by
  obtain ⟨seenFirst, seenSecond, seenThird, seenFourth⟩ :
      (ask first).1 = answer ∧ (ask second).1 = answer ∧
        (ask third).1 = answer ∧ (ask fourth).1 = answer := by
    simpa using seen
  refine ⟨_, _, _, _, _, config.agreed answer, ?_, ?_, ?_, ?_⟩
  · simp [consult, decideBy, seenFirst]
  · simp [consult, decideBy, seenSecond]
  · simp [consult, decideBy, seenThird]
  · simp [consult, decideBy, seenFourth]

/-- An asker that names a stranger every other time, and nobody in between. -/
def wavering : Asker Nat := fun asked =>
  (if asked % 2 = 0 then .ok (.ofNat 9) else .error .noLeader, [], asked + 1)

theorem consultations_agree_wavering :
    (∀ current ∈ [6, 0, 4, 2], (wavering current).1 = .ok (.ofNat 9)) ∧
      ∃ leads checked routed reported status,
        standard.Agreed (.ok (.ofNat 9)) leads checked routed reported status ∧
        standard.consult wavering 0 .isLeader 6 = (.isLeader leads, [], 7) ∧
        standard.consult wavering 0 .ensureLeader 0 = (.checked checked, [], 1) ∧
        standard.consult wavering 0 .route 4 = (.route routed, [] ++ reported, 5) ∧
        standard.consult wavering 0 .status 2 = (.status status, [], 3) :=
  ⟨by simp [wavering],
    consultations_agree standard (.ok (.ofNat 9)) wavering 0 6 0 4 2 (by simp [wavering])⟩

end Config

end Leadership
