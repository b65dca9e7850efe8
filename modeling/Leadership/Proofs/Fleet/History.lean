import Leadership.Fleet
import Mathlib.Data.Nat.Basic
import Mathlib.Tactic.SplitIfs

/-!
# Histories of engines

What hosts do to an engine is a list of deeds: they launch it, share and release
handles on it, and command it.  The history of an engine determines its slot in
the fleet, and thereby what its observers are told.  The readings of a history
below look at the deeds alone; `Fleet.Recorded.enact` shows that a fleet that is
changed by deeds stays what the histories of its engines say.
-/

namespace Leadership

theorem Engine.fst_answer (engine : Engine) :
    engine.answer.1 =
      if engine.phase = .stopped then .error (.engineUnavailable "raft server stopped")
      else if engine.lead = nobody then .error .noLeader
      else .ok ⟨engine.lead⟩ := by
  unfold answer
  split_ifs <;> rfl

/-- Something that a host does to an engine. -/
inductive Deed where
  | launched (node : NodeId)
  | shared
  | released
  | commanded (command : Command)
deriving DecidableEq

namespace Deed

/-- Whether a deed gives a host a further handle. -/
def givesHandle : Deed → Bool
  | .launched _ | .shared => true
  | _ => false

def node? : Deed → Option NodeId
  | .launched node => some node
  | _ => none

/-- The phase into which a deed leads. -/
def phase? : Deed → Option Phase
  | .commanded .start => some .running
  | .commanded .stop => some .stopped
  | _ => none

/-- The lead that a deed publishes. -/
def lead? : Deed → Option UInt64
  | .commanded (.publish lead) => some lead
  | _ => none

end Deed

/-- The deeds done to one engine, in their order. -/
abbrev History := List Deed

namespace History

/-! ## Readings of a history -/

/-- The handles given less the handles released. -/
def handles (history : History) : Nat :=
  history.countP Deed.givesHandle - history.count .released

def node? (history : History) : Option NodeId :=
  history.findSome? Deed.node?

/-- The phase of the most recent start or stop. -/
def phase (history : History) : Phase :=
  (history.filterMap Deed.phase?).getLast?.getD .starting

/-- All leads that were published. -/
def leads (history : History) : List UInt64 :=
  history.filterMap Deed.lead?

/-- The lead that was published last. -/
def lead (history : History) : UInt64 :=
  history.leads.getLast?.getD nobody

/-- The engine that a history leads to. -/
def engine? (history : History) : Option Engine :=
  history.node?.map fun node =>
    .hosted
      { node := node
        lead := history.lead
        phase := history.phase
        publications := UInt64.ofNat history.leads.length }

def slot? (history : History) : Option Slot :=
  history.engine?.map fun engine => ⟨engine, history.handles⟩

/-- What an engine with some history tells its observers about the leader. -/
def answer (history : History) : Answer :=
  if history.handles = 0 then
    .error (.engineUnavailable "raft server dropped")
  else if history.phase = .stopped then
    .error (.engineUnavailable "raft server stopped")
  else if history.lead = nobody then
    .error .noLeader
  else
    .ok ⟨history.lead⟩

/-! ## One more deed -/

variable (history : History)

theorem node?_append (deed : Deed) :
    node? (history ++ [deed]) = history.node?.or deed.node? := by
  simp only [node?, List.findSome?_append, List.findSome?_singleton]

theorem phase_append (deed : Deed) :
    phase (history ++ [deed]) = deed.phase?.getD history.phase := by
  unfold phase
  cases turn : deed.phase? <;> simp [turn]

theorem leads_append (deed : Deed) :
    leads (history ++ [deed]) = history.leads ++ deed.lead?.toList := by
  unfold leads
  cases published : deed.lead? <;> simp [published]

theorem lead_append (deed : Deed) :
    lead (history ++ [deed]) = deed.lead?.getD history.lead := by
  unfold lead
  rw [leads_append]
  cases deed.lead? <;> simp

theorem handles_released :
    handles (history ++ [.released]) = history.handles - 1 := by
  simp [handles, Deed.givesHandle, Nat.sub_sub]

theorem handles_shared (held : 0 < history.handles) :
    handles (history ++ [.shared]) = history.handles + 1 := by
  unfold handles at *
  simp only [List.countP_append, List.count_append]
  simp [Deed.givesHandle]
  omega

theorem handles_commanded (command : Command) :
    handles (history ++ [.commanded command]) = history.handles := by
  simp [handles, Deed.givesHandle]

variable {history : History} {slot : Slot}

theorem handles_of_slot? (recorded : history.slot? = some slot) :
    slot.handles = history.handles := by
  obtain ⟨engine, _, rfl⟩ := Option.map_eq_some_iff.mp recorded
  rfl

theorem slot?_launched (node : NodeId) :
    slot? [.launched node] = some ⟨.hosted (.fresh node), 1⟩ :=
  rfl

theorem slot?_shared
    (recorded : history.slot? = some slot) (held : 0 < slot.handles) :
    slot? (history ++ [.shared]) = some { slot with handles := slot.handles + 1 } := by
  have same := handles_of_slot? recorded
  rw [same] at held ⊢
  obtain ⟨engine, built, rfl⟩ := Option.map_eq_some_iff.mp recorded
  obtain ⟨node, named, rfl⟩ := Option.map_eq_some_iff.mp built
  simp [slot?, engine?, node?_append, phase_append, leads_append, lead_append,
    handles_shared history held, named, Deed.phase?, Deed.lead?]

theorem slot?_released (recorded : history.slot? = some slot) :
    slot? (history ++ [.released]) = some { slot with handles := slot.handles - 1 } := by
  obtain ⟨engine, built, rfl⟩ := Option.map_eq_some_iff.mp recorded
  obtain ⟨node, named, rfl⟩ := Option.map_eq_some_iff.mp built
  simp [slot?, engine?, node?_append, phase_append, leads_append, lead_append,
    handles_released, named, Deed.phase?, Deed.lead?]

theorem slot?_commanded
    (recorded : history.slot? = some slot) (command : Command) :
    slot? (history ++ [.commanded command]) =
      some { slot with engine := (slot.engine.obey command).1 } := by
  obtain ⟨engine, built, rfl⟩ := Option.map_eq_some_iff.mp recorded
  obtain ⟨node, named, rfl⟩ := Option.map_eq_some_iff.mp built
  cases command <;>
    simp [slot?, engine?, node?_append, phase_append, leads_append, lead_append,
      handles_commanded, named, Deed.phase?, Deed.lead?, Engine.obey, Hosted.obey]

/-- What a history says of the answer is what its engine answers. -/
theorem answer_eq_of_slot?
    (recorded : history.slot? = some slot) (held : slot.handles ≠ 0) :
    history.answer = slot.engine.answer.1 := by
  have same := handles_of_slot? recorded
  obtain ⟨engine, built, rfl⟩ := Option.map_eq_some_iff.mp recorded
  obtain ⟨node, named, rfl⟩ := Option.map_eq_some_iff.mp built
  rw [answer, if_neg (same ▸ held), Engine.fst_answer]
  rfl

theorem answer_ne_nobody (history : History) :
    history.answer ≠ .ok ⟨nobody⟩ := by
  unfold answer
  split_ifs with dropped stopped leaderless
  all_goals simp_all

end History

/-! ## Chronicles of fleets -/

/-- The deeds done to all engines of a fleet, in their order. -/
abbrev Chronicle := List (Berth × Deed)

/-- The deeds done to one engine. -/
def Chronicle.history (berth : Berth) (chronicle : Chronicle) : History :=
  chronicle.filterMap fun entry => if entry.1 = berth then some entry.2 else none

theorem Chronicle.history_append (berth : Berth) (earlier later : Chronicle) :
    Chronicle.history berth (earlier ++ later) =
      Chronicle.history berth earlier ++ Chronicle.history berth later := by
  simp [history]

theorem Chronicle.history_record_self (berth : Berth) (deed : Deed) (chronicle : Chronicle) :
    Chronicle.history berth (chronicle ++ [(berth, deed)]) = chronicle.history berth ++ [deed] := by
  simp [history]

theorem Chronicle.history_record_of_ne {berth other : Berth} (different : other ≠ berth)
    (deed : Deed) (chronicle : Chronicle) :
    Chronicle.history other (chronicle ++ [(berth, deed)]) = chronicle.history other := by
  simp [history, different.symm]

namespace Fleet

theorem live?_eq_some_iff {fleet : Fleet} {berth : Berth} {slot : Slot} :
    fleet.live? berth = some slot ↔ fleet[berth]? = some slot ∧ slot.handles ≠ 0 := by
  unfold live?
  constructor
  · intro alive
    split at alive
    · rename_i found present
      split_ifs at alive with gone
      cases alive
      exact ⟨present, gone⟩
    · contradiction
  · rintro ⟨present, held⟩
    simp [present, held]

/-- The fleet after a deed. -/
def enact (berth : Berth) (deed : Deed) (fleet : Fleet) : Fleet :=
  match deed with
  | .launched node => (fleet.launch (.hosted (.fresh node))).1
  | .shared => fleet.share berth
  | .released => fleet.release berth
  | .commanded command => (fleet.command berth command).1

/-- Only a new engine is launched, and all other deeds need an engine that is alive. -/
def Admits (fleet : Fleet) (berth : Berth) : Deed → Prop
  | .launched _ => berth = fleet.length
  | _ => (fleet.live? berth).isSome

/--
Every slot is what the history of its engine says, and nothing was ever done to
an engine that has no slot yet.
-/
structure Recorded (chronicle : Chronicle) (fleet : Fleet) : Prop where
  slots : ∀ berth : Berth, fleet[berth]? = (chronicle.history berth).slot?
  unlaunched : ∀ berth : Berth, fleet.length ≤ berth → chronicle.history berth = []

theorem Recorded.empty : Recorded [] [] :=
  ⟨fun _ => rfl, fun _ _ => rfl⟩

theorem exists_slot_of_isSome {fleet : Fleet} {berth : Berth}
    (alive : (fleet.live? berth).isSome) :
    ∃ slot, fleet.live? berth = some slot ∧ fleet[berth]? = some slot ∧
      0 < slot.handles ∧ berth < fleet.length := by
  obtain ⟨slot, found⟩ := Option.isSome_iff_exists.mp alive
  obtain ⟨present, held⟩ := live?_eq_some_iff.mp found
  refine ⟨slot, found, present, Nat.pos_of_ne_zero held, ?_⟩
  exact (List.getElem?_eq_some_iff.mp present).1

/-- A deed adds a slot at the end of a fleet or replaces the slot of its engine. -/
theorem enact_cases {fleet : Fleet} {berth : Berth} {deed : Deed}
    (admitted : fleet.Admits berth deed) :
    (berth = fleet.length ∧ ∃ slot, fleet.enact berth deed = fleet ++ [slot]) ∨
      (berth < fleet.length ∧ ∃ slot, fleet.enact berth deed = fleet.set berth slot) := by
  cases deed with
  | launched node => exact Or.inl ⟨admitted, _, rfl⟩
  | shared =>
      obtain ⟨slot, found, -, -, known⟩ := exists_slot_of_isSome admitted
      exact Or.inr ⟨known, _, by simp only [enact, share, found]; rfl⟩
  | released =>
      obtain ⟨slot, found, -, -, known⟩ := exists_slot_of_isSome admitted
      exact Or.inr ⟨known, _, by simp only [enact, release, found]; rfl⟩
  | commanded command =>
      obtain ⟨slot, found, -, -, known⟩ := exists_slot_of_isSome admitted
      exact Or.inr ⟨known, _, by simp only [enact, Fleet.command, found]; rfl⟩

theorem getElem?_enact_of_ne {fleet : Fleet} {berth other : Berth} {deed : Deed}
    (admitted : fleet.Admits berth deed) (different : other ≠ berth) :
    (fleet.enact berth deed)[other]? = fleet[other]? := by
  rcases enact_cases admitted with ⟨newest, slot, added⟩ | ⟨known, slot, replaced⟩
  · rw [added, List.getElem?_append]
    split_ifs with known
    · rfl
    · have beyond : fleet.length < other :=
        lt_of_le_of_ne (Nat.le_of_not_lt known) (newest ▸ different.symm)
      rw [List.getElem?_eq_none (Nat.le_of_lt beyond), List.getElem?_eq_none]
      exact Nat.sub_pos_of_lt beyond
  · rw [replaced, List.getElem?_set_ne different.symm]

/-- Fleets only grow, and whoever something is done to has a slot afterwards. -/
theorem length_enact {fleet : Fleet} {berth : Berth} {deed : Deed}
    (admitted : fleet.Admits berth deed) :
    fleet.length ≤ (fleet.enact berth deed).length ∧
      berth < (fleet.enact berth deed).length := by
  rcases enact_cases admitted with ⟨newest, slot, added⟩ | ⟨known, slot, replaced⟩
  · rw [added, List.length_append, List.length_singleton, newest]
    exact ⟨Nat.le_succ _, Nat.lt_succ_self _⟩
  · rw [replaced, List.length_set]
    exact ⟨Nat.le_refl _, known⟩

namespace Recorded

variable {fleet : Fleet} {chronicle : Chronicle} {berth : Berth} {deed : Deed}

/-- The slot after a deed is what the longer history says. -/
theorem slot_enact (recorded : fleet.Recorded chronicle) (admitted : fleet.Admits berth deed) :
    (fleet.enact berth deed)[berth]? = (chronicle.history berth ++ [deed]).slot? := by
  have before := recorded.slots berth
  cases deed with
  | launched node =>
      change berth = fleet.length at admitted
      rw [recorded.unlaunched berth (Nat.le_of_eq admitted.symm), List.nil_append,
        History.slot?_launched]
      simp [Fleet.enact, launch, admitted]
  | shared =>
      obtain ⟨slot, found, present, held, known⟩ := exists_slot_of_isSome admitted
      rw [History.slot?_shared (before ▸ present) held]
      simp [Fleet.enact, share, found, known]
  | released =>
      obtain ⟨slot, found, present, held, known⟩ := exists_slot_of_isSome admitted
      rw [History.slot?_released (before ▸ present)]
      simp [Fleet.enact, release, found, known]
  | commanded command =>
      obtain ⟨slot, found, present, held, known⟩ := exists_slot_of_isSome admitted
      rw [History.slot?_commanded (before ▸ present)]
      simp [Fleet.enact, Fleet.command, found, known]

/-- A deed is recorded at the end of the history of its engine alone. -/
theorem enact (recorded : fleet.Recorded chronicle) (admitted : fleet.Admits berth deed) :
    (fleet.enact berth deed).Recorded (chronicle ++ [(berth, deed)]) := by
  constructor
  · intro other
    rcases eq_or_ne other berth with same | different
    · subst same
      rw [Chronicle.history_record_self, recorded.slot_enact admitted]
    · rw [Chronicle.history_record_of_ne different,
        getElem?_enact_of_ne admitted different, recorded.slots other]
  · intro other unknown
    have different : other ≠ berth := by
      rintro rfl
      exact absurd (length_enact admitted).2 (Nat.not_lt.mpr unknown)
    rw [Chronicle.history_record_of_ne different]
    exact recorded.unlaunched other (Nat.le_trans (length_enact admitted).1 unknown)

theorem handles_eq_zero_iff (recorded : fleet.Recorded chronicle) :
    (chronicle.history berth).handles = 0 ↔ fleet.live? berth = none := by
  cases present : fleet[berth]? with
  | some slot =>
      have same := History.handles_of_slot? (recorded.slots berth ▸ present)
      simp [live?, present, ← same]
  | none =>
      have unknown := List.getElem?_eq_none_iff.mp present
      simp [live?, present, recorded.unlaunched berth unknown, History.handles]

/-- Observers are told what the history of their engine says. -/
theorem answer (recorded : fleet.Recorded chronicle) (berth : Berth) :
    (fleet.answer berth).1 = (chronicle.history berth).answer := by
  unfold Fleet.answer
  cases found : fleet.live? berth with
  | some slot =>
      obtain ⟨present, held⟩ := live?_eq_some_iff.mp found
      exact (History.answer_eq_of_slot? (recorded.slots berth ▸ present) held).symm
  | none =>
      simp [History.answer, recorded.handles_eq_zero_iff.mpr found]

end Recorded

end Fleet

end Leadership
