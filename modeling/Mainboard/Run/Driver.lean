import Mainboard.Configuration.Machine
import Mainboard.Run.Options
import Mainboard.Switching.Handoff

/-!
# Running a machine

A run instantiates the machine, warms it up in quanta until enough instructions
are committed, and goes through its phases.  Whenever a phase asks for a
checkpoint every cluster is walked back to the first fidelity, the checkpoint
is written, and the phase is entered again.  Nothing bounds the number of
quanta or of checkpoints, so a run is given some patience: the number of
stretches it may simulate in its warm-up and in each phase.
-/

namespace Mainboard

namespace Action

variable {σ : Type}

/-- Simulates quanta after some that are done, until the workload exits or
enough instructions are committed. -/
def warmUpFrom (engine : Engine σ) (threshold quantum : UInt64) :
    (patience done : Nat) → Action σ (Nat × Option ExitEvent)
  | 0, _ => throw .outOfPatience
  | patience + 1, done => do
      let event : ExitEvent ← call engine (.simulate (some quantum))
      let committed : UInt64 ← call engine .dumpStatistics
      if !event.isLimitReached && !event.isCheckpointRequest then
        return (done + 1, some event)
      else if threshold ≤ committed then
        let _ ← call engine .resetStatistics
        return (done + 1, none)
      else warmUpFrom engine threshold quantum patience (done + 1)

/-- The warm-up of a run: its quanta, and the event if the workload exits. -/
def warmUp (engine : Engine σ) (options : RunOptions) (patience : Nat) :
    Action σ (Nat × Option ExitEvent) :=
  match options.warmupThreshold with
  | none => return (0, none)
  | some threshold => warmUpFrom engine threshold options.warmupQuantum patience 0

/-- Writes a checkpoint, on the first fidelity, and gives its directory. -/
def checkpoint (engine : Engine σ) (options : RunOptions) : Action σ String := do
  if options.revertBeforeCheckpoint then revertAll engine
  ensureCheckpointable
  let directory := options.checkpointDirectory (engine.tick (← get).engine)
  let _ ← call engine (.checkpoint directory)
  return directory

/-- Simulates a phase with its checkpoints, up to the event that ends it. -/
def simulatePhase (engine : Engine σ) (options : RunOptions) (phase : Phase) :
    (patience : Nat) → Action σ (List String × ExitEvent)
  | 0 => throw .outOfPatience
  | patience + 1 => do
      let event : ExitEvent ← call engine (.simulate phase.ticks)
      if !event.isCheckpointRequest then return ([], event)
      let directory ← checkpoint engine options
      enter engine phase.fidelity
      let (directories, last) ← simulatePhase engine options phase patience
      return (directory :: directories, last)

/-- Goes through phases, up to the first that ends otherwise than by its
budget.  The event before is that of the last phase so far. -/
def runPhases (engine : Engine σ) (options : RunOptions) (patience : Nat) :
    List Phase → ExitEvent → Action σ (List String × ExitEvent)
  | [], before => return ([], before)
  | phase :: phases, _ => do
      enter engine phase.fidelity
      let (directories, event) ← simulatePhase engine options phase patience
      if event.isLimitReached then
        let (later, last) ← runPhases engine options patience phases event
        return (directories ++ later, last)
      else return (directories, event)

/-- The phases of a run.  One that names none stays on the first fidelity. -/
def schedule (options : RunOptions) (sequence : FidelitySequence) : List Phase :=
  if options.phases.isEmpty then [{ fidelity := sequence.first }] else options.phases

/-- What follows the warm-up: the phases, unless the workload has exited. -/
def afterWarmUp (engine : Engine σ) (options : RunOptions) (patience : Nat) :
    Option ExitEvent → Action σ (List String × ExitEvent)
  | some event => return ([], event)
  | none => do
      let phases := schedule options (← get).controller.sequence
      runPhases engine options patience phases .limitReached

def run (engine : Engine σ) (topology : Topology) (options : RunOptions) (patience : Nat) :
    Action σ Outcome := do
  let _ ← call engine
    (.instantiate topology (options.boot.commandLine topology) options.restore)
  let (warmupQuanta, exited) ← warmUp engine options patience
  let (checkpoints, exit) ← afterWarmUp engine options patience exited
  let finalInstructions : UInt64 ← call engine .dumpStatistics
  return { exit, checkpoints, warmupQuanta, finalInstructions }

end Action

/-- A machine, its controller and the options of its run. -/
structure Prepared where
  topology : Topology
  controller : Controller
  options : RunOptions

/-- What is left of a run: its outcome or why it stopped, the state of the
engine and the ledger of its calls. -/
structure Report (σ : Type) where
  result : Except Halt Outcome
  engine : σ
  ledger : List LedgerEntry

namespace Configuration

def switchOptions (configuration : Configuration) : SwitchOptions where
  instructionCap := configuration.switching.instructionCap
  checker := configuration.switching.checker

/-- Composes the machine of a configuration, its controller and its options. -/
def prepare (configuration : Configuration) : Except Error Prepared := do
  let topology ← configuration.topology
  let sequence ← FidelitySequence.ofModels configuration.switching.sequence
  let controller ← Controller.new topology sequence configuration.switchOptions
  let options ← RunOptions.ofConfiguration configuration.run
  return { topology, controller, options := { options with boot := configuration.boot } }

def execute {σ : Type} (engine : Engine σ) (patience : Nat) (configuration : Configuration)
    (state : σ) : Report σ :=
  match configuration.prepare with
  | .error error => ⟨.error (.failed error), state, []⟩
  | .ok prepared =>
      let bench : Bench σ := { engine := state, controller := prepared.controller }
      match Action.run engine prepared.topology prepared.options patience bench with
      | .ok outcome bench => ⟨.ok outcome, bench.engine, bench.ledger⟩
      | .error halt bench => ⟨.error halt, bench.engine, bench.ledger⟩

end Configuration

end Mainboard
