import Leadership.Engine
import Leadership.Proofs.Text.Digits
import Mathlib.Data.List.Destutter

/-!
# Changes of the lead

An engine counts every lead that its host publishes, and it reports those that
differ from the one before.  What it reports is a path of changes from one lead to
the next, and the ends of these changes are the leads that were published without
their repetitions.  A line of the log tells the whole change: whoever reads it finds
what the event was about.
-/

namespace Leadership

/-- A change of the lead of a node. -/
structure Shift where
  node : NodeId
  previous : UInt64
  current : UInt64
deriving DecidableEq

/-- The change of a lead that an event is about. -/
def Event.shift? : Event → Option Shift
  | .leaderLost node previous => some ⟨node, previous, nobody⟩
  | .leaderChanged node previous current => some ⟨node, previous, current⟩
  | _ => none

/-- The lead that a command publishes. -/
def Command.lead? : Command → Option UInt64
  | .publish lead => some lead
  | _ => none

namespace Shift

variable {node : NodeId} {lead : UInt64}

/--
A path of changes of one node: each starts from the lead that the one before ended
at, and none leads back to where it started.
-/
inductive Path (node : NodeId) : UInt64 → List Shift → UInt64 → Prop where
  | rest (lead : UInt64) : Path node lead [] lead
  | move {previous current last : UInt64} {later : List Shift} (differs : previous ≠ current)
      (goesOn : Path node current later last) :
      Path node previous (⟨node, previous, current⟩ :: later) last

/-- The changes that some leads make when they are published one after the other. -/
def trail (node : NodeId) : UInt64 → List UInt64 → List Shift
  | _, [] => []
  | lead, next :: later =>
      if lead = next then trail node lead later
      else ⟨node, lead, next⟩ :: trail node next later

theorem trail_append (earlier later : List UInt64) :
    trail node lead (earlier ++ later) =
      trail node lead earlier ++ trail node (earlier.getLast?.getD lead) later := by
  induction earlier generalizing lead with
  | nil => rfl
  | cons next earlier induction =>
      rw [List.cons_append, trail, trail, List.getLast?_cons, Option.getD_some]
      split_ifs with same
      · rw [induction, same]
      · rw [induction, List.cons_append]

theorem node_of_mem_trail {published : List UInt64} {shift : Shift}
    (member : shift ∈ trail node lead published) : shift.node = node := by
  induction published generalizing lead with
  | nil => contradiction
  | cons next later induction =>
      rw [trail] at member
      split_ifs at member with same
      · exact induction member
      · rcases List.mem_cons.mp member with rfl | further
        · rfl
        · exact induction further

/-- Changes lead from one lead to the next, up to the lead that was published last. -/
theorem path_trail (published : List UInt64) :
    Path node lead (trail node lead published) (published.getLast?.getD lead) := by
  induction published generalizing lead with
  | nil => exact .rest lead
  | cons next later induction =>
      rw [trail, List.getLast?_cons, Option.getD_some]
      split_ifs with same
      · exact same ▸ induction
      · exact .move same induction

/-- The ends of the changes, after a first lead, are all leads without repetitions. -/
theorem cons_map_current_trail (published : List UInt64) :
    lead :: (trail node lead published).map current = published.destutter' (· ≠ ·) lead := by
  induction published generalizing lead with
  | nil => rfl
  | cons next later induction =>
      rw [trail, List.destutter'_cons]
      split_ifs with same differs
      · exact absurd same differs
      · exact induction
      · rw [List.map_cons, induction]

/-- From nobody the changes end at all leads without repetitions and first absences. -/
theorem map_current_trail_nobody (published : List UInt64) :
    (trail node nobody published).map current =
      (published.dropWhile (· = nobody)).destutter (· ≠ ·) := by
  induction published with
  | nil => rfl
  | cons next later induction =>
      rw [trail, List.dropWhile_cons]
      split_ifs with same absent absent
      · exact induction
      · exact absurd (decide_eq_true same.symm) absent
      · exact absurd (of_decide_eq_true absent).symm same
      · rw [List.map_cons, cons_map_current_trail, List.destutter_cons']

/-! ## Reading the log -/

/-- The number at the front of a text, and what follows it. -/
def readNumber (text : List Char) : Nat × List Char :=
  let (digits, rest) := Text.spanDigits 10 text
  (Text.ofDigits 10 digits, rest)

/-- The change of a lead that a text tells. -/
def ofText? (text : List Char) : Option Shift := do
  let text ← "Node ".toList.isPrefixOf? text
  let (node, text) := readNumber text
  match " lost track of leader ".toList.isPrefixOf? text with
  | some text => some ⟨.ofNat node, .ofNat (readNumber text).1, nobody⟩
  | none =>
      let text ← " observed leader change ".toList.isPrefixOf? text
      let (previous, text) := readNumber text
      let text ← " -> ".toList.isPrefixOf? text
      some ⟨.ofNat node, .ofNat previous, .ofNat (readNumber text).1⟩

/-- The change of a lead that a line of the log tells. -/
def ofLine? (line : String) : Option Shift :=
  ofText? line.toList

theorem readNumber_append (number : Nat) {rest : List Char}
    (stops : Text.Stops (Text.isDigitOf 10) rest) :
    readNumber (number.repr.toList ++ rest) = (number, rest) := by
  rw [readNumber, Text.spanDigits_repr_append number stops]
  simp only [Text.ofDigits_digitsOf Text.isBase_ten]

/-- A number ends where a mark begins with a blank. -/
theorem stops_append_of_blank (mark : String) (rest : List Char)
    (blank : mark.toList.head? = some ' ') :
    Text.Stops (Text.isDigitOf 10) (mark.toList ++ rest) := by
  obtain ⟨others, shape⟩ := List.head?_eq_some_iff.mp blank
  rw [shape]
  exact Text.stops_cons.mpr rfl

theorem readNumber_repr (number : Nat) : readNumber number.repr.toList = (number, []) := by
  rw [← List.append_nil number.repr.toList, readNumber_append number Text.stops_nil]

theorem isPrefixOf?_append (front rest : List Char) :
    front.isPrefixOf? (front ++ rest) = some rest :=
  List.isPrefixOf?_eq_some_iff_append_eq.mpr rfl

theorem ofText?_lost (node previous : Nat) :
    ofText? ("Node ".toList ++ (node.repr.toList ++ (" lost track of leader ".toList ++
      previous.repr.toList))) = some ⟨.ofNat node, .ofNat previous, nobody⟩ := by
  have atNode := readNumber_append node
    (stops_append_of_blank " lost track of leader " previous.repr.toList rfl)
  simp only [ofText?, isPrefixOf?_append, Option.bind_eq_bind, Option.bind_some, atNode,
    readNumber_repr]

theorem ofText?_changed (node previous current : Nat) :
    ofText? ("Node ".toList ++ (node.repr.toList ++ (" observed leader change ".toList ++
      (previous.repr.toList ++ (" -> ".toList ++ current.repr.toList))))) =
        some ⟨.ofNat node, .ofNat previous, .ofNat current⟩ := by
  have unlost : ∀ rest, " lost track of leader ".toList.isPrefixOf?
      (" observed leader change ".toList ++ rest) = none := fun _ => rfl
  have atPrevious := readNumber_append previous
    (stops_append_of_blank " -> " current.repr.toList rfl)
  have atNode := readNumber_append node
    (stops_append_of_blank " observed leader change "
      (previous.repr.toList ++ (" -> ".toList ++ current.repr.toList)) rfl)
  simp only [ofText?, isPrefixOf?_append, Option.bind_eq_bind, Option.bind_some, atNode, unlost,
    atPrevious, readNumber_repr]

/-- No other line begins like that of a changed lead. -/
theorem ofLine?_of_other {line front : String} {rest : List Char}
    (starts : line.toList = front.toList ++ rest)
    (other : "Node ".toList.isPrefixOf? (front.toList ++ rest) = none) :
    ofLine? line = none := by
  rw [ofLine?, starts, ofText?, other]
  rfl

theorem toList_append_four (first second third fourth : String) :
    (first ++ second ++ third ++ fourth).toList =
      first.toList ++ (second.toList ++ (third.toList ++ fourth.toList)) := by
  simp only [String.toList_append, List.append_assoc]

theorem toList_append_six (first second third fourth fifth sixth : String) :
    (first ++ second ++ third ++ fourth ++ fifth ++ sixth).toList =
      first.toList ++ (second.toList ++ (third.toList ++
        (fourth.toList ++ (fifth.toList ++ sixth.toList)))) := by
  simp only [String.toList_append, List.append_assoc]

/-- What a line tells is what its event was about. -/
theorem ofLine?_message (event : Event) : ofLine? event.message = event.shift? := by
  cases event with
  | leaderLost node previous =>
      have told := ofText?_lost node.toNat previous.toNat
      rw [← toList_append_four, NodeId.ofNat_toNat, UInt64.ofNat_toNat] at told
      exact told
  | leaderChanged node previous current =>
      have told := ofText?_changed node.toNat previous.toNat current.toNat
      rw [← toList_append_six, NodeId.ofNat_toNat, UInt64.ofNat_toNat,
        UInt64.ofNat_toNat] at told
      exact told
  | engineStarted node => exact ofLine?_of_other String.toList_append rfl
  | engineStopped node => exact ofLine?_of_other String.toList_append rfl
  | strangerLeads leader cluster => exact ofLine?_of_other (toList_append_four _ _ _ _) rfl
  | stillWaiting reason => exact ofLine?_of_other String.toList_append rfl
  | askedDropped => rfl
  | askedStopped => rfl
  | askedLeaderless => rfl

theorem filterMap_ofLine? (events : List Event) :
    (events.map Event.message).filterMap ofLine? = events.filterMap Event.shift? := by
  rw [List.filterMap_map]
  congr
  funext event
  exact ofLine?_message event

end Shift

/-! ## Engines -/

namespace Hosted

/-- Of a published lead there is one change or none. -/
theorem shift_leadEvents (node : NodeId) (previous current : UInt64) :
    (leadEvents node previous current).filterMap Event.shift? =
      Shift.trail node previous [current] := by
  rw [leadEvents, Shift.trail]
  split_ifs with same lost
  · rfl
  · rw [lost]
    rfl
  · rfl

/-- What one command makes of an engine. -/
theorem obey_spec (command : Command) (state : Hosted) :
    (state.obey command).1.node = state.node ∧
      (state.obey command).1.lead = command.lead?.getD state.lead ∧
      (state.obey command).1.publications =
        state.publications + UInt64.ofNat command.lead?.toList.length ∧
      (state.obey command).2.filterMap Event.shift? =
        Shift.trail state.node state.lead command.lead?.toList := by
  cases command with
  | start => exact ⟨rfl, rfl, (UInt64.add_zero _).symm, rfl⟩
  | stop => exact ⟨rfl, rfl, (UInt64.add_zero _).symm, rfl⟩
  | publish lead => exact ⟨rfl, rfl, rfl, shift_leadEvents state.node state.lead lead⟩

end Hosted

namespace Engine

/-- The node of an engine that can tell. -/
def node? : Engine → Option NodeId
  | .hosted state => some state.node
  | .bare _ => none

/-- An engine after some commands, with all that it reports of them. -/
def obeyAll : List Command → Engine → Engine × List Event
  | [], engine => (engine, [])
  | command :: later, engine =>
      let (next, events) := engine.obey command
      let (last, further) := obeyAll later next
      (last, events ++ further)

theorem obeyAll_append (earlier later : List Command) (engine : Engine) :
    engine.obeyAll (earlier ++ later) =
      (((engine.obeyAll earlier).1.obeyAll later).1,
        (engine.obeyAll earlier).2 ++ ((engine.obeyAll earlier).1.obeyAll later).2) := by
  induction earlier generalizing engine with
  | nil => rfl
  | cons command earlier induction =>
      simp only [List.cons_append, obeyAll, induction, List.append_assoc]

/-- What commands make of an engine: it counts leads and reports changes. -/
theorem obeyAll_hosted (commands : List Command) (state : Hosted) :
    ∃ last events, obeyAll commands (.hosted state) = (.hosted last, events) ∧
      last.node = state.node ∧
      last.lead = (commands.filterMap Command.lead?).getLast?.getD state.lead ∧
      last.publications =
        state.publications + UInt64.ofNat (commands.filterMap Command.lead?).length ∧
      events.filterMap Event.shift? =
        Shift.trail state.node state.lead (commands.filterMap Command.lead?) := by
  induction commands generalizing state with
  | nil => exact ⟨state, [], rfl, rfl, rfl, (UInt64.add_zero _).symm, rfl⟩
  | cons command commands induction =>
      have leads : (command :: commands).filterMap Command.lead? =
          command.lead?.toList ++ commands.filterMap Command.lead? := by
        rw [List.filterMap_cons]
        cases command.lead? <;> rfl
      obtain ⟨sameNode, sameLead, counted, reported⟩ := Hosted.obey_spec command state
      obtain ⟨last, events, obeyed, node, lead, publications, shifts⟩ :=
        induction (state.obey command).1
      refine ⟨last, (state.obey command).2 ++ events, ?_, ?_, ?_, ?_, ?_⟩
      · simp only [obeyAll, obey, obeyed]
      · rw [node, sameNode]
      · rw [lead, sameLead, leads]
        cases command.lead? with
        | none => rfl
        | some next =>
            rw [Option.toList_some, List.singleton_append, List.getLast?_cons, Option.getD_some,
              Option.getD_some]
      · rw [publications, counted, leads, List.length_append, UInt64.ofNat_add, UInt64.add_assoc]
      · rw [List.filterMap_append, reported, shifts, sameNode, sameLead, leads,
          Shift.trail_append]
        cases command.lead? <;> rfl

end Engine

end Leadership
