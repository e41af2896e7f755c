import Mainboard.Engine.Scripted
import Mainboard.Run.Driver

/-!
# Sessions

Several controllers of one machine, by name, that share one engine and one
source of tokens, and batches that are kept between the steps of a session.
A batch is used up by the step that commits or aborts it, whichever controller
it is shown to and whether or not it is accepted.
-/

namespace Mainboard

/-- A session with its controllers and the batches that are not used up. -/
structure Session where
  topology : Topology
  sequence : FidelitySequence
  options : SwitchOptions
  controllers : List (String × Controller)
  batches : List (String × Batch) := []
  script : Script
  engine : ScriptedState
  nextToken : Nat := 1

/-- One step of a session. -/
inductive SessionStep
  | new
  | clone (source : String)
  | replaceEngine (script : Script)
  | begin (batch : String) (cluster : Nat) (requests : List (Nat × CoreModel))
  | commit (batch : String)
  | abort (batch : String)
  | handOff (cluster : Nat) (requests : List (Nat × CoreModel))
  | switchTo (cluster : Nat) (target : CoreModel)
  | stepToward (cluster : Nat) (target : CoreModel)
  | revertAll
  | ensureCheckpointable
  | activeFidelity (cluster : Nat)
  | slotFidelity (cluster slot : Nat)
  | describe
  | run (options : RunOptions)

/-- What a step answers. -/
inductive SessionReply
  | done
  | noBatch
  | halted (halt : Halt)
  | begun (batch : Batch)
  | steps (count : Nat)
  | fidelity (model : Option CoreModel)
  | description (controller : Controller)
  | outcome (outcome : Outcome)

namespace Session

/-- Puts an entry under a name, in place of the one there. -/
def put {α : Type} (entries : List (String × α)) (name : String) (value : α) :
    List (String × α) :=
  (name, value) :: entries.filter (·.1 ≠ name)

def withoutCores (topology : Topology) (emptied : List Nat) : Topology :=
  { topology with
    clusters := topology.clusters.map fun cluster =>
      if cluster.index ∈ emptied then { cluster with cores := [] } else cluster }

/-- The start of a session, with one controller under a name. -/
def start (topology : Topology) (switching : SwitchingConfiguration) (options : SwitchOptions)
    (script : Script) (name : String) : Except Error Session := do
  let sequence ← FidelitySequence.ofModels switching.sequence
  let controller ← Controller.new topology sequence options
  return { topology, sequence, options, script
           controllers := [(name, controller)]
           engine := .ofScript script }

def atBench {α : Type} (session : Session) (name : String) (controller : Controller)
    (action : Action ScriptedState α) : Except Halt α × Session :=
  let bench : Bench ScriptedState :=
    { engine := session.engine, controller, nextToken := session.nextToken }
  let settle (bench : Bench ScriptedState) : Session :=
    { session with
      engine := bench.engine
      nextToken := bench.nextToken
      controllers := put session.controllers name bench.controller }
  match action bench with
  | .ok value bench => (.ok value, settle bench)
  | .error halt bench => (.error halt, settle bench)

/-- More patience than a scripted engine needs. -/
def patience : Nat := ScriptedState.stretches + 2

/-- Answers with a value, or with why there is none. -/
def reply {α : Type} (ofValue : α → SessionReply) :
    Except Halt α × Session → SessionReply × Session
  | (.ok value, next) => (ofValue value, next)
  | (.error halt, next) => (.halted halt, next)

def useBatch (session : Session) (name : String) (controller : Controller) (batch : String)
    (action : Batch → Action ScriptedState Unit) : SessionReply × Session :=
  match session.batches.lookup batch with
  | none => (.noBatch, session)
  | some found =>
      let rest := { session with batches := session.batches.filter (·.1 ≠ batch) }
      reply (fun _ => .done) (rest.atBench name controller (action found))

/-- Does one step with the controller under a name. -/
def stepWith (session : Session) (name : String) (controller : Controller) (step : SessionStep) :
    SessionReply × Session :=
  let engine := session.script.engine
  match step with
  | .new | .clone _ | .replaceEngine _ => (.done, session)
  | .begin batch cluster requests =>
      match session.atBench name controller (Action.begin cluster requests) with
      | (.ok begun, next) =>
          (.begun begun, { next with batches := put next.batches batch begun })
      | (.error halt, next) => (.halted halt, next)
  | .commit batch => session.useBatch name controller batch Action.commit
  | .abort batch => session.useBatch name controller batch Action.abort
  | .handOff cluster requests =>
      reply (fun _ => .done)
        (session.atBench name controller (Action.switchSlots engine cluster requests))
  | .switchTo cluster target =>
      reply (fun _ => .done)
        (session.atBench name controller (Action.switchTo engine cluster target))
  | .stepToward cluster target =>
      reply .steps (session.atBench name controller (Action.stepToward engine cluster target))
  | .revertAll =>
      reply (fun _ => .done) (session.atBench name controller (Action.revertAll engine))
  | .ensureCheckpointable =>
      reply (fun _ => .done) (session.atBench name controller Action.ensureCheckpointable)
  | .activeFidelity cluster => (.fidelity (controller.activeFidelity? cluster), session)
  | .slotFidelity cluster slot => (.fidelity (controller.slotFidelity? cluster slot), session)
  | .describe => (.description controller, session)
  | .run options =>
      reply .outcome
        (session.atBench name controller
          (Action.run engine session.topology options patience))

/-- Does one step with the controller under a name, if there is one. -/
def step (session : Session) (name : String) (step : SessionStep) :
    Option (SessionReply × Session) :=
  match step with
  | .new =>
      match Controller.new session.topology session.sequence session.options with
      | .ok controller =>
          some (.done, { session with controllers := put session.controllers name controller })
      | .error error => some (.halted (.failed error), session)
  | .clone source =>
      (session.controllers.lookup source).map fun controller =>
        (.done, { session with controllers := put session.controllers name controller })
  | .replaceEngine script => some (.done, { session with script, engine := .ofScript script })
  | other =>
      (session.controllers.lookup name).map fun controller =>
        session.stepWith name controller other

end Session

end Mainboard
