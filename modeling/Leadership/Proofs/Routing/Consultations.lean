import Leadership.Proofs.Routing.Agreement
import Leadership.Proofs.Wait.Polls

/-!
# What a router is told

A router is consulted again and again while the answers of its asker change.  Each
consultation takes the next answers, as many as it needs, and is decided by these
alone: whoever gives the same answers gets the same finding, and a consultation
that takes one answer might as well have been about a leader that never changes.
So a run of consultations cuts what the asker tells into consecutive pieces.
-/

namespace Leadership

/-- Whether a consultation takes exactly one question. -/
def Matter.asksOnce : Matter → Bool
  | .isLeader | .ensureLeader | .route | .status | .statusText => true
  | .config | .validity | .wait => false

/-- Someone who tells the same for ever. -/
def Asker.always (telling : Telling) : Asker Unit := fun _ =>
  (telling.1, telling.2, ())

/-- A consultation: the matter, what it took, and what came of it. -/
structure Consultation where
  matter : Matter
  taken : List Telling
  finding : Finding
  events : List Event

namespace Config

variable {state : Type}

/-- A run of consultations, one after the other, with the state of the asker after them. -/
def consultAll (config : Config) (ask : Asker state) (unpaused : Nat) :
    List Matter → state → List (Finding × List Event) × state
  | [], current => ([], current)
  | matter :: matters, current =>
      let (finding, events, next) := config.consult ask unpaused matter current
      let (outcomes, last) := consultAll config ask unpaused matters next
      ((finding, events) :: outcomes, last)

/-- What is decided by one answer is decided in the same way whoever is asked. -/
theorem consult_of_asksOnce (config : Config) (unpaused : Nat) {matter : Matter}
    (once : matter.asksOnce) :
    ∃ decide : Answer → Finding × List Event, ∀ {state : Type} (ask : Asker state)
        (current : state) (telling : Telling), ask.tellings current 1 = [telling] →
      config.consult ask unpaused matter current =
        ((decide telling.1).1, telling.2 ++ (decide telling.1).2, ask.stateAt current 1) := by
  suffices decides : ∃ decide : Answer → Finding × List Event,
      ∀ {state : Type} (ask : Asker state) (current : state),
        config.consult ask unpaused matter current = decideBy decide ask current by
    obtain ⟨decide, decides⟩ := decides
    refine ⟨decide, ?_⟩
    intro state ask current telling told
    obtain rfl := List.head_eq_of_cons_eq told
    exact decides ask current
  cases matter with
  | isLeader => exact ⟨fun answer => (.isLeader (config.isLeader answer), []), fun _ _ => rfl⟩
  | ensureLeader =>
      exact ⟨fun answer => (.checked (config.ensureLeader answer), []), fun _ _ => rfl⟩
  | route =>
      exact ⟨fun answer => (.route (config.route answer).1, (config.route answer).2),
        fun _ _ => rfl⟩
  | status => exact ⟨fun answer => (.status (config.status answer), []), fun _ _ => rfl⟩
  | statusText =>
      exact ⟨fun answer => (.text (config.status answer).toText, []), fun _ _ => rfl⟩
  | _ => contradiction

end Config

namespace Consultation

/-- A consultation that is decided by what it took. -/
structure Decided (config : Config) (unpaused : Nat) (consultation : Consultation) : Prop where
  /-- Whoever tells the same is asked as often, with the same outcome. -/
  determined : ∀ (state : Type) (ask : Asker state) (current : state),
    ask.tellings current consultation.taken.length = consultation.taken →
      config.consult ask unpaused consultation.matter current =
        (consultation.finding, consultation.events,
          ask.stateAt current consultation.taken.length)
  /-- What takes one answer might as well be about a leader that never changes. -/
  single : consultation.matter.asksOnce → ∃ telling, consultation.taken = [telling] ∧
    config.consult (.always telling) unpaused consultation.matter () =
      (consultation.finding, consultation.events, ())
  unasked : consultation.matter = .config ∨ consultation.matter = .validity →
    consultation.taken = []
  /-- A wait takes what it polls. -/
  polled : consultation.matter = .wait → ∃ ending elapsed,
    consultation.finding = .waited ending elapsed ∧
      Wait.Polled config.patience unpaused consultation.taken ending elapsed consultation.events

namespace Decided

variable {config : Config} {unpaused : Nat} {consultation : Consultation}

/-- All that a status tells of the leader is from one answer. -/
theorem status (decided : consultation.Decided config unpaused)
    (isStatus : consultation.matter = .status) :
    ∃ telling, consultation.taken = [telling] ∧
      consultation.finding = .status (config.status telling.1) := by
  obtain ⟨telling, same, outcome⟩ := decided.single (isStatus ▸ rfl)
  rw [isStatus] at outcome
  exact ⟨telling, same, (congrArg Prod.fst outcome).symm⟩

/-- The leader and the endpoint of what is forwarded are from one answer. -/
theorem forward (decided : consultation.Decided config unpaused)
    (isRoute : consultation.matter = .route) {leader : NodeId} {endpoint : Endpoint}
    (forwards : consultation.finding = .route (.ok (.forward leader endpoint))) :
    ∃ telling, consultation.taken = [telling] ∧ telling.1 = .ok leader ∧
      ∃ member, config.member? leader = some member ∧ member.endpoint = endpoint := by
  obtain ⟨telling, same, outcome⟩ := decided.single (isRoute ▸ rfl)
  rw [isRoute] at outcome
  have routed : Finding.route (config.route telling.1).1 =
      .route (.ok (.forward leader endpoint)) :=
    (congrArg Prod.fst outcome).trans forwards
  obtain ⟨answered, -, configured⟩ := Config.answer_of_forward (Finding.route.inj routed)
  exact ⟨telling, same, answered, configured⟩

end Decided

end Consultation

namespace Config

variable {state : Type} (config : Config) (ask : Asker state) (unpaused : Nat)

theorem exists_decided_of_asksOnce {matter : Matter} (once : matter.asksOnce) (current : state) :
    ∃ consultation : Consultation, consultation.matter = matter ∧
      ask.tellings current consultation.taken.length = consultation.taken ∧
      consultation.Decided config unpaused := by
  obtain ⟨decide, decides⟩ := config.consult_of_asksOnce unpaused once
  let telling : Telling := ((ask current).1, (ask current).2.1)
  refine ⟨⟨matter, [telling], (decide telling.1).1, telling.2 ++ (decide telling.1).2⟩, rfl,
    ask.tellings_one current, ?_⟩
  constructor
  · exact fun other asker start tells => decides asker start telling tells
  · exact fun _ => ⟨telling, rfl, decides (.always telling) () telling rfl⟩
  · rintro (rfl | rfl) <;> contradiction
  · rintro rfl
    contradiction

theorem exists_decided_wait (current : state) :
    ∃ consultation : Consultation, consultation.matter = .wait ∧
      ask.tellings current consultation.taken.length = consultation.taken ∧
      consultation.Decided config unpaused := by
  obtain ⟨count, ending, elapsed, events, polled⟩ :=
    Wait.exists_polled config.patience unpaused ask current
  refine ⟨⟨.wait, ask.tellings current count, .waited ending elapsed, events⟩, rfl, ?_, ?_⟩
  · rw [ask.length_tellings]
  constructor
  · intro other asker start tells
    simp only [consult, polled.run asker start tells]
  · intro once
    contradiction
  · rintro (waits | waits) <;> contradiction
  · exact fun _ => ⟨ending, elapsed, rfl, polled⟩

/-- What is decided without a question. -/
theorem decided_unasked {matter : Matter} {finding : Finding}
    (unasked : matter = .config ∨ matter = .validity)
    (found : ∀ (state : Type) (ask : Asker state) (current : state),
      config.consult ask unpaused matter current = (finding, [], current)) :
    Consultation.Decided config unpaused ⟨matter, [], finding, []⟩ where
  determined other asker start _ := found other asker start
  single once := by rcases unasked with rfl | rfl <;> contradiction
  unasked _ := rfl
  polled waits := by rcases unasked with rfl | rfl <;> contradiction

/-- Each consultation takes the next answers and is decided by them. -/
theorem exists_decided (matter : Matter) (current : state) :
    ∃ consultation : Consultation, consultation.matter = matter ∧
      ask.tellings current consultation.taken.length = consultation.taken ∧
      consultation.Decided config unpaused := by
  cases matter with
  | config =>
      exact ⟨_, rfl, rfl, config.decided_unasked unpaused (.inl rfl) fun _ _ _ => rfl⟩
  | validity =>
      exact ⟨_, rfl, rfl, config.decided_unasked unpaused (.inr rfl) fun _ _ _ => rfl⟩
  | wait => exact config.exists_decided_wait ask unpaused current
  | _ => exact config.exists_decided_of_asksOnce ask unpaused rfl current

/--
A run of consultations takes what its asker tells piece by piece.  The induction
is on the matters; the rest of the run begins where the first consultation ends.
-/
theorem exists_consultations (matters : List Matter) (current : state) :
    ∃ consultations : List Consultation,
      consultations.map Consultation.matter = matters ∧
      config.consultAll ask unpaused matters current =
        (consultations.map fun consultation => (consultation.finding, consultation.events),
          ask.stateAt current (consultations.flatMap Consultation.taken).length) ∧
      consultations.flatMap Consultation.taken =
        ask.tellings current (consultations.flatMap Consultation.taken).length ∧
      ∀ consultation ∈ consultations, consultation.Decided config unpaused := by
  induction matters generalizing current with
  | nil => exact ⟨[], rfl, rfl, rfl, by simp⟩
  | cons matter matters induction =>
      obtain ⟨first, rfl, tells, decided⟩ := config.exists_decided ask unpaused matter current
      obtain ⟨others, same, outcomes, taken, allDecided⟩ :=
        induction (ask.stateAt current first.taken.length)
      refine ⟨first :: others, ?_, ?_, ?_, ?_⟩
      · rw [List.map_cons, same]
      · rw [consultAll, decided.determined state ask current tells, List.flatMap_cons,
          List.length_append, ask.stateAt_add]
        simp only [outcomes, List.map_cons]
      · rw [List.flatMap_cons, List.length_append, ask.tellings_add, tells, ← taken]
      · rw [List.forall_mem_cons]
        exact ⟨decided, allDecided⟩

/-! ## The main statement -/

/--
A run of consultations through references of any kind.  The asker's answers are
cut into consecutive pieces, one for each consultation and nothing left between
them; each consultation is decided by its own piece, whoever gives these answers.
All that a status tells of the leader is from one answer, and so are the leader
and the endpoint of what is forwarded.  References make no difference.
-/
theorem consultAll_decided (config : Config) (ask : Asker state) (references : List Reference)
    (unpaused : Nat) (matters : List Matter) (current : state) :
    (∃ consultations : List Consultation,
      consultations.map Consultation.matter = matters ∧
      config.consultAll (ask.through references) unpaused matters current =
        (consultations.map fun consultation => (consultation.finding, consultation.events),
          ask.stateAt current (consultations.flatMap Consultation.taken).length) ∧
      consultations.flatMap Consultation.taken =
        ask.tellings current (consultations.flatMap Consultation.taken).length ∧
      ∀ consultation ∈ consultations,
        consultation.Decided config unpaused ∧
        (consultation.matter = .status →
          ∃ telling, consultation.taken = [telling] ∧
            consultation.finding = .status (config.status telling.1)) ∧
        (∀ leader endpoint, consultation.matter = .route →
          consultation.finding = .route (.ok (.forward leader endpoint)) →
          ∃ telling, consultation.taken = [telling] ∧ telling.1 = .ok leader ∧
            ∃ member, config.member? leader = some member ∧ member.endpoint = endpoint)) ∧
    ∀ others : List Reference,
      config.consultAll (ask.through others) unpaused matters current =
        config.consultAll (ask.through references) unpaused matters current := by
  simp only [Asker.through_eq]
  refine ⟨?_, fun _ => trivial⟩
  obtain ⟨consultations, same, outcomes, taken, allDecided⟩ :=
    config.exists_consultations ask unpaused matters current
  refine ⟨consultations, same, outcomes, taken, ?_⟩
  intro consultation isOne
  have decided := allDecided consultation isOne
  exact ⟨decided, decided.status, fun _ _ isRoute forwards => decided.forward isRoute forwards⟩

end Config

end Leadership
