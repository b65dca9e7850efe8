import Leadership.Asker
import Leadership.Routing
import Leadership.Wait

/-!
# Consulting a router

A router joins a configuration with something that can be asked who leads.  What
it is consulted for takes one question, except for a wait, which takes as many as
it needs, and for the configuration itself, which takes none.
-/

namespace Leadership

/-- What a router is consulted for. -/
inductive Matter where
  | isLeader
  | ensureLeader
  | route
  | status
  | statusText
  | config
  | validity
  | wait
deriving DecidableEq

/-- What a router finds. -/
inductive Finding where
  | isLeader (outcome : Except Fault Bool)
  | checked (outcome : Except Fault Unit)
  | route (outcome : Except Fault Route)
  | status (status : Status)
  | text (text : String)
  | config (config : Config)
  | waited (ending : Ending) (elapsed : Nat)

namespace Config

variable {state : Type}

/-- Asks once and decides by the answer. -/
def decideBy (decide : Answer → Finding × List Event) (ask : Asker state) (current : state) :
    Finding × List Event × state :=
  let (answer, events, next) := ask current
  let (finding, further) := decide answer
  (finding, events ++ further, next)

/-- Consults a router.  `unpaused` bounds the questions of a wait without pauses. -/
def consult (config : Config) (ask : Asker state) (unpaused : Nat) (matter : Matter)
    (current : state) : Finding × List Event × state :=
  match matter with
  | .isLeader => decideBy (fun answer => (.isLeader (config.isLeader answer), [])) ask current
  | .ensureLeader =>
      decideBy (fun answer => (.checked (config.ensureLeader answer), [])) ask current
  | .route =>
      decideBy (fun answer =>
        let (outcome, events) := config.route answer
        (.route outcome, events)) ask current
  | .status => decideBy (fun answer => (.status (config.status answer), [])) ask current
  | .statusText =>
      decideBy (fun answer => (.text (config.status answer).toText, [])) ask current
  | .config => (.config config, [], current)
  | .validity => (.checked config.validate, [], current)
  | .wait =>
      let waited := Wait.run ask config.patience unpaused current
      (.waited waited.ending waited.elapsed, waited.events, waited.state)

end Config

end Leadership
