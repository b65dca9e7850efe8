import Leadership.Engine

/-!
# Fleets of engines

Engines live as long as their hosts hold them.  A fleet keeps a slot for every
engine that ever lived, with the number of handles on it; the engine is gone with
the last handle, and never comes back.  Whoever only observes an engine knows its
slot and holds no handle.
-/

namespace Leadership

/-- An engine with the number of handles that its hosts have on it. -/
structure Slot where
  engine : Engine
  handles : Nat
deriving DecidableEq

/-- All engines, by the order in which they were made. -/
abbrev Fleet := List Slot

/-- The place of an engine in a fleet. -/
abbrev Berth := Nat

namespace Fleet

/-- The slot of an engine that is alive. -/
def live? (fleet : Fleet) (berth : Berth) : Option Slot :=
  match fleet[berth]? with
  | some slot => if slot.handles = 0 then none else some slot
  | none => none

/-- A new engine, with one handle on it. -/
def launch (engine : Engine) (fleet : Fleet) : Fleet × Berth :=
  (fleet ++ [⟨engine, 1⟩], fleet.length)

/-- One more handle on an engine that is alive. -/
def share (berth : Berth) (fleet : Fleet) : Fleet :=
  match fleet.live? berth with
  | some slot => fleet.set berth { slot with handles := slot.handles + 1 }
  | none => fleet

/-- One handle less. -/
def release (berth : Berth) (fleet : Fleet) : Fleet :=
  match fleet.live? berth with
  | some slot => fleet.set berth { slot with handles := slot.handles - 1 }
  | none => fleet

/-- A command to an engine that is alive. -/
def command (berth : Berth) (command : Command) (fleet : Fleet) : Fleet × List Event :=
  match fleet.live? berth with
  | some slot =>
      let (engine, events) := slot.engine.obey command
      (fleet.set berth { slot with engine := engine }, events)
  | none => (fleet, [])

/-- What an observer of an engine is told about the leader. -/
def answer (fleet : Fleet) (berth : Berth) : Answer × List Event :=
  match fleet.live? berth with
  | some slot => slot.engine.answer
  | none => (.error (.engineUnavailable "raft server dropped"), [.askedDropped])

end Fleet

end Leadership
