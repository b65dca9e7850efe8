import Leadership.Config.Exchange
import Leadership.Consult
import Leadership.Query

/-!
# Sessions

A session is a run over engines, queries and routers that are known by names.
Each step names what it works on and has a reply and the events it caused.  What
is made under a name that is taken replaces its bearer; a handle that is replaced
is released, and a query that nobody can ask any more gives back what it holds.
-/

namespace Leadership

/-- Bearers of names. -/
abbrev Names (bearer : Type) := List (String × bearer)

namespace Names

variable {bearer : Type}

def put (name : String) (value : bearer) (names : Names bearer) : Names bearer :=
  (name, value) :: names.filter (fun entry => entry.1 ≠ name)

def remove (name : String) (names : Names bearer) : Names bearer :=
  names.filter (fun entry => entry.1 ≠ name)

end Names

/-- A query together with the configuration that decides by it. -/
structure Router where
  query : Query
  config : Config

structure Session where
  world : World
  handles : Names Berth
  observers : Names Berth
  queries : Names Query
  routers : Names Router

inductive Step where
  | launch (name : String) (engine : Engine)
  | share (name source : String)
  | command (name : String) (command : Command)
  | inspect (name : String)
  | release (name : String)
  | observe (name source : String)
  | copyObserver (name source : String)
  | inspectObserver (name : String)
  | fixed (name : String) (leader : Option NodeId)
  | script (name : String) (answers : List Answer)
  /-- The election takes the handle away from its name. -/
  | elect (name source : String) (moves : List Move)
  /-- A question to a query, through references. -/
  | ask (name : String) (references : List Reference)
  /-- A router over a query, with the description of its configuration. -/
  | router (name query : String) (description : Option Json.Value)
  | consult (name : String) (matter : Matter)

inductive Reply where
  | engine (slot : Slot)
  | released (existed : Bool)
  | observer (alive : Bool)
  | fixed (leader : Option NodeId)
  | done
  | answer (answer : Answer)
  | router (node : NodeId) (members : Nat)
  | refused (mismatch : Mismatch)
  | finding (finding : Finding)
  /-- There is no bearer of a name. -/
  | unknownName

namespace Session

def empty : Session :=
  ⟨.empty, [], [], [], []⟩

/-- The fleet of a session. -/
def fleet (session : Session) : Fleet :=
  session.world.fleet

def withFleet (fleet : Fleet) (session : Session) : Session :=
  { session with world := { session.world with fleet := fleet } }

/-- Gives a handle a name, and releases the handle that had the name before. -/
def nameHandle (name : String) (berth : Berth) (session : Session) : Session :=
  let session := match session.handles.lookup name with
    | some old => session.withFleet (session.fleet.release old)
    | none => session
  { session with handles := session.handles.put name berth }

def nameQuery (name : String) (query : Query) (session : Session) : Session :=
  { session with queries := session.queries.put name query }

def nameObserver (name : String) (berth : Berth) (session : Session) : Session :=
  { session.nameQuery name (.observer berth) with
    observers := session.observers.put name berth }

/-- All queries that can still be asked. -/
def askable (session : Session) : List Query :=
  session.queries.map Prod.snd ++ session.routers.map (fun entry => entry.2.query)

/-- Gives back what queries hold that nobody can ask any more. -/
def settle (session : Session) : Session :=
  { session with world := session.world.retireAllBut session.askable }

/-- The engine behind a handle, as it is now. -/
def engineReply (berth : Berth) (session : Session) : Reply :=
  match session.fleet.live? berth with
  | some slot => .engine slot
  | none => .unknownName

def observerReply (berth : Berth) (session : Session) : Reply :=
  .observer (session.fleet.live? berth).isSome

/-- The outcome of a step. -/
abbrev Outcome := Reply × List Event × Session

/-- Works on the bearer of a name, if there is one. -/
def withName {bearer : Type} (names : Names bearer) (name : String) (session : Session)
    (work : bearer → Outcome) : Outcome :=
  match names.lookup name with
  | some value => work value
  | none => (.unknownName, [], session)

/-- A step, before queries that are out of reach give back what they hold. -/
def act (session : Session) : Step → Outcome
  | .launch name engine =>
      let (fleet, berth) := session.fleet.launch engine
      let session := (session.withFleet fleet).nameHandle name berth
      (session.engineReply berth, [], session)
  | .share name source =>
      withName session.handles source session fun berth =>
        let session := (session.withFleet (session.fleet.share berth)).nameHandle name berth
        (session.engineReply berth, [], session)
  | .command name command =>
      withName session.handles name session fun berth =>
        let (fleet, events) := session.fleet.command berth command
        let session := session.withFleet fleet
        (session.engineReply berth, events, session)
  | .inspect name =>
      withName session.handles name session fun berth =>
        (session.engineReply berth, [], session)
  | .release name =>
      match session.handles.lookup name with
      | some berth =>
          let session := session.withFleet (session.fleet.release berth)
          (.released true, [], { session with handles := session.handles.remove name })
      | none => (.released false, [], session)
  | .observe name source =>
      withName session.handles source session fun berth =>
        let session := session.nameObserver name berth
        (session.observerReply berth, [], session)
  | .copyObserver name source =>
      withName session.observers source session fun berth =>
        let session := session.nameObserver name berth
        (session.observerReply berth, [], session)
  | .inspectObserver name =>
      withName session.observers name session fun berth =>
        (session.observerReply berth, [], session)
  | .fixed name leader => (.fixed leader, [], session.nameQuery name (.fixed leader))
  | .script name answers =>
      let (world, query) := session.world.addCell (.script ⟨answers, askLimit⟩)
      (.done, [], { session with world := world }.nameQuery name query)
  | .elect name source moves =>
      withName session.handles source session fun berth =>
        let (world, query) :=
          session.world.addCell (.election ⟨berth, true, moves, askLimit⟩)
        let session := { session with
          world := world
          handles := session.handles.remove source }
        (.done, [], session.nameQuery name query)
  | .ask name references =>
      withName session.queries name session fun query =>
        let (answer, events, world) := (World.ask query).through references session.world
        (.answer answer, events, { session with world := world })
  | .router name query description =>
      match Config.ofDescription description with
      | .error mismatch => (.refused mismatch, [], session)
      | .ok config =>
          withName session.queries query session fun query =>
            (.router config.node config.members.length, [],
              { session with routers := session.routers.put name ⟨query, config⟩ })
  | .consult name matter =>
      withName session.routers name session fun router =>
        let (finding, events, world) :=
          router.config.consult (World.ask router.query) (askLimit + 1) matter session.world
        (.finding finding, events, { session with world := world })

/-- A step with its reply and its events. -/
def perform (step : Step) (session : Session) : Outcome :=
  let (reply, events, session) := session.act step
  (reply, events, session.settle)

/-- The replies and events of some steps, one after the other. -/
def run : List Step → Session → List (Reply × List Event)
  | [], _ => []
  | step :: steps, session =>
      let (reply, events, session) := session.perform step
      (reply, events) :: run steps session

end Session

end Leadership
