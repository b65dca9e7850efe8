import Leadership.Asker
import Leadership.Fleet

/-!
# Queries

A query is anything that can be asked who leads: an observer of an engine, a
leader that never changes, a script of answers, or an election that goes on while
it is watched.  Scripts and elections remember how often they were asked, and
they are shared by all who ask them, so they are kept in cells of a common world.
-/

namespace Leadership

/-- The fault of a script or an election that was asked too often. -/
def askedTooOften : Fault :=
  .backend "poll limit" []

/-- How often a script or an election of a session can be asked. -/
def askLimit : Nat := 1000

/-- Answers to be given one after the other, the last of them for ever. -/
structure Script where
  answers : List Answer
  /-- How many answers may still be given. -/
  left : Nat

namespace Script

def next (script : Script) : Answer × Script :=
  match script.left, script.answers with
  | 0, _ | _, [] => (.error askedTooOften, script)
  | left + 1, [last] => (last, ⟨[last], left⟩)
  | left + 1, first :: others => (first, ⟨others, left⟩)

end Script

/-- What happens to the engine of an election before a question. -/
inductive Move where
  | command (command : Command)
  /-- The election gives its handle on the engine back. -/
  | release
  | pass

/-- An election: an engine that changes with every question. -/
structure Election where
  berth : Berth
  /-- Whether the election still has its handle on the engine. -/
  holds : Bool
  moves : List Move
  left : Nat

/-- A query with a memory. -/
inductive Cell where
  | script (script : Script)
  | election (election : Election)

/-- All that queries may look at. -/
structure World where
  fleet : Fleet
  cells : List Cell

inductive Query where
  | observer (berth : Berth)
  | fixed (leader : Option NodeId)
  | cell (place : Nat)
deriving DecidableEq

namespace Query

/-- An observer on one line, with what it can tell about the life of its engine. -/
def observerLabel (alive : Bool) : String :=
  "EmbeddedConsensusAdapter \x7b server_alive: " ++ (if alive then "true" else "false") ++ " \x7d"

/-- A leader that never changes on one line. -/
def fixedLabel (leader : Option NodeId) : String :=
  let shown := match leader with
    | some leader => "Some(" ++ leader.labelled ++ ")"
    | none => "None"
  "FixedLeader \x7b leader: " ++ shown ++ " \x7d"

end Query

namespace Election

/-- Makes the next move, which has no effect once the handle is given back. -/
def move (election : Election) (fleet : Fleet) : Election × Fleet × List Event :=
  let next : Election := { election with moves := election.moves.tail, left := election.left - 1 }
  match election.holds, election.moves.head? with
  | true, some (.command command) =>
      let (fleet, events) := fleet.command election.berth command
      (next, fleet, events)
  | true, some .release => ({ next with holds := false }, fleet.release election.berth, [])
  | _, _ => (next, fleet, [])

end Election

namespace World

def empty : World :=
  ⟨[], []⟩

/-- Puts a new cell into a world. -/
def addCell (cell : Cell) (world : World) : World × Query :=
  ({ world with cells := world.cells ++ [cell] }, .cell world.cells.length)

/-- The answer of a cell, which takes its next turn. -/
def askCell (place : Nat) (world : World) : Answer × List Event × World :=
  match world.cells[place]? with
  | some (.script script) =>
      let (answer, script) := script.next
      (answer, [], { world with cells := world.cells.set place (.script script) })
  | some (.election election) =>
      if election.left = 0 then
        (.error askedTooOften, [], world)
      else
        let (moved, fleet, moveEvents) := election.move world.fleet
        let (answer, events) := fleet.answer election.berth
        (answer, moveEvents ++ events, ⟨fleet, world.cells.set place (.election moved)⟩)
  | none => (.error askedTooOften, [], world)

/-- Asks a query who leads. -/
def ask (query : Query) : Asker World := fun world =>
  match query with
  | .observer berth =>
      let (answer, events) := world.fleet.answer berth
      (answer, events, world)
  | .fixed (some leader) => (.ok leader, [], world)
  | .fixed none => (.error .noLeader, [], world)
  | .cell place => world.askCell place

/-- Takes the handle of an election that nobody can ask any more. -/
def retireCell (place : Nat) (world : World) : World :=
  match world.cells[place]? with
  | some (.election election) =>
      if election.holds then
        { fleet := world.fleet.release election.berth
          cells := world.cells.set place (.election { election with holds := false }) }
      else
        world
  | _ => world

/-- Retires all cells that are not among the given queries. -/
def retireAllBut (queries : List Query) (world : World) : World :=
  ((List.range world.cells.length).filter (fun place => .cell place ∉ queries)).foldl
    (fun world place => world.retireCell place) world

end World

end Leadership
