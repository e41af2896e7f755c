import Mainboard.Switching.Controller

/-!
# Simulation engines

An engine simulates a machine that is handed to it.  It answers calls, each
with a result or with a message about its failure, and its own state changes
with every call, also with one that fails.
-/

namespace Mainboard

/-- The event that ends a stretch of simulation. -/
structure ExitEvent where
  cause : String
  code : Int
  deriving DecidableEq

namespace ExitEvent

def limitCause : String := "simulate() limit reached"

def checkpointCause : String := "checkpoint"

def limitReached : ExitEvent := ⟨limitCause, 0⟩

def checkpointRequest : ExitEvent := ⟨checkpointCause, 0⟩

/-- Whether a tick budget ran out, whatever the code. -/
def isLimitReached (event : ExitEvent) : Bool := event.cause = limitCause

/-- Whether a checkpoint is asked for, whatever the code. -/
def isCheckpointRequest (event : ExitEvent) : Bool := event.cause = checkpointCause

end ExitEvent

/-- A call of the engine. -/
inductive Call
  /-- Build a machine, for a kernel command line, from a checkpoint if one is given. -/
  | instantiate (topology : Topology) (commandLine : String) (restore : Option String)
  /-- Simulate up to a number of ticks, if one is given. -/
  | simulate (limit : Option UInt64)
  /-- Write a checkpoint to a directory. -/
  | checkpoint (directory : String)
  /-- Hand the cores of a batch over. -/
  | switchCores (batch : Batch)
  /-- Write the statistics and give the instructions committed. -/
  | dumpStatistics
  /-- Set the statistics back.  An engine with no way of its own to do so has nothing to do. -/
  | resetStatistics

def Call.Answer : Call → Type
  | simulate _ => ExitEvent
  | dumpStatistics => UInt64
  | instantiate .. | checkpoint _ | switchCores _ | resetStatistics => Unit

/-- An engine with some kind of state. -/
structure Engine (σ : Type) where
  answer : (call : Call) → σ → Except String call.Answer × σ
  /-- The current tick. -/
  tick : σ → UInt64

end Mainboard
