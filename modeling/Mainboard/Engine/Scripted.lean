import Mainboard.Engine.Basic
import Mainboard.Saturating

/-!
# Scripted engines

An engine that simulates nothing: the events of its stretches are written down
beforehand, ticks and instructions advance by fixed amounts, and chosen calls
fail.  It keeps a record of its calls, and serves to try runs out.
-/

namespace Mainboard

/-- The kinds of calls. -/
inductive CallKind
  | instantiate
  | simulate
  | checkpoint
  | switchCores
  | dumpStatistics
  | resetStatistics
  deriving DecidableEq

def Call.kind : Call → CallKind
  | instantiate .. => .instantiate
  | simulate _ => .simulate
  | checkpoint _ => .checkpoint
  | switchCores _ => .switchCores
  | dumpStatistics => .dumpStatistics
  | resetStatistics => .resetStatistics

def CallKind.name : CallKind → String
  | instantiate => "instantiate"
  | simulate => "simulate"
  | checkpoint => "checkpoint"
  | switchCores => "switch"
  | dumpStatistics => "dump_stats"
  | resetStatistics => "reset_stats"

/-- A call that fails: the one of a kind, by name, that comes after some others. -/
structure ScriptedFailure where
  name : String
  after : Nat
  message : String

/-- What a scripted engine does. -/
structure Script where
  events : List ExitEvent := []
  failures : List ScriptedFailure := []
  tick : UInt64 := 0
  instructions : UInt64 := 0
  instructionsPerStretch : UInt64 := 0
  ticksPerStretch : UInt64 := 0
  /-- Whether the engine has a way of its own to set the statistics back. -/
  hasOwnReset : Bool := true

/-- A scripted engine in the middle of its script, with its record of calls, the last first. -/
structure ScriptedState where
  script : Script
  remaining : List ExitEvent
  tick : UInt64
  instructions : UInt64
  calls : List Call := []

namespace ScriptedState

def ofScript (script : Script) : ScriptedState where
  script
  remaining := script.events
  tick := script.tick
  instructions := script.instructions

def count (state : ScriptedState) (kind : CallKind) : Nat := state.calls.countP (·.kind = kind)

/-- The message with which the next call of a kind fails, if it does. -/
def failure? (state : ScriptedState) (kind : CallKind) : Option String :=
  (state.script.failures.find? fun failure =>
    failure.name = kind.name && failure.after = state.count kind).map ScriptedFailure.message

/-- The stretches that a scripted engine simulates before it gives up. -/
def stretches : Nat := 40

/-- Simulates a stretch: time passes, and the next event of the script comes.
After the last one a budget runs out, or the workload is done. -/
def advance (state : ScriptedState) (limit : Option UInt64) : ExitEvent × ScriptedState :=
  let event : ExitEvent :=
    match state.remaining, limit with
    | event :: _, _ => event
    | [], some _ => .limitReached
    | [], none => ⟨"workload done", 0⟩
  (event,
    { state with
      remaining := state.remaining.drop 1
      tick := saturatingAdd state.tick (limit.getD state.script.ticksPerStretch)
      instructions := saturatingAdd state.instructions state.script.instructionsPerStretch })

/-- The answer to a call that does not fail by script. -/
def answer (state : ScriptedState) : (call : Call) → Except String call.Answer × ScriptedState
  | .simulate limit =>
      if stretches < state.count .simulate then (.error "simulate budget exhausted", state)
      else
        let (event, next) := state.advance limit
        (.ok event, next)
  | .dumpStatistics => (.ok state.instructions, state)
  | .resetStatistics => (.ok (), { state with instructions := 0 })
  | .instantiate .. | .checkpoint _ | .switchCores _ => (.ok (), state)

/-- The calls that are recorded since an earlier state, in their order. -/
def callsSince (state earlier : ScriptedState) : List Call :=
  (state.calls.take (state.calls.length - earlier.calls.length)).reverse

/-- Records a call and answers it, or fails by script. -/
def respond (state : ScriptedState) (call : Call) : Except String call.Answer × ScriptedState :=
  let recorded := { state with calls := call :: state.calls }
  match state.failure? call.kind with
  | some message => (.error message, recorded)
  | none => recorded.answer call

end ScriptedState

/-- The engine of a script.  One that has no reset of its own does nothing when it is asked for
one, and does not record it. -/
def Script.engine (script : Script) : Engine ScriptedState where
  answer
    | .resetStatistics => fun state =>
        if script.hasOwnReset then state.respond .resetStatistics else (.ok (), state)
    | call => fun state => state.respond call
  tick := ScriptedState.tick

end Mainboard
