import Mainboard.Engine.Bench

/-!
# Handing cores over

A switch is complete once the engine has handed the cores over: a batch begins,
the engine is called, and the batch is committed, or aborted if the engine
fails.  A longer way is walked one position at a time.
-/

namespace Mainboard.Action

variable {σ : Type}

def begin (cluster : Nat) (requests : List (Nat × CoreModel)) : Action σ Batch := do
  let bench ← get
  let (batch, controller) ← ofExcept (bench.controller.begin bench.nextToken cluster requests)
  set { bench with controller, nextToken := bench.nextToken + 1 }
  return batch

def commit (batch : Batch) : Action σ Unit := change (·.commit batch)

def abort (batch : Batch) : Action σ Unit := change (·.abort batch)

def switchSlots (engine : Engine σ) (cluster : Nat) (requests : List (Nat × CoreModel)) :
    Action σ Unit := do
  let batch ← begin cluster requests
  match ← attempt engine (.switchCores batch) with
  | .ok _ => commit batch
  | .error message => do
      abort batch
      fail (.engine message)

def slotSet (cluster : Nat) : Action σ SlotSet := do
  ofExcept ((← get).controller.set cluster)

def switchTo (engine : Engine σ) (cluster : Nat) (target : CoreModel) : Action σ Unit := do
  let set ← slotSet cluster
  switchSlots engine cluster ((List.range set.slots.length).map fun slot => (slot, target))

def nextStop (source goal : Nat) : Nat := if source < goal then source + 1 else source - 1

/-- Walks a cluster to a position.  Each round reads where the slots are, and
switches them to the next position unless they have arrived.  Gives the number
of switches, those done before included. -/
def walk (engine : Engine σ) (cluster goal : Nat) (target : CoreModel) :
    (rounds done : Nat) → Action σ Nat
  | 0, _ => throw .outOfPatience
  | rounds + 1, done => do
      let set ← slotSet cluster
      let some source := set.commonActive? | fail (.switch cluster .mixedFidelity)
      if source = goal then return done
      let sequence := (← get).controller.sequence
      switchTo engine cluster ((sequence.model? (nextStop source goal)).getD target)
      walk engine cluster goal target rounds (done + 1)

/-- Walks a cluster to a fidelity, one position at a time, and gives the
number of switches.  No way leads through more positions than there are
fidelities, so one round more than those is never used up. -/
def stepToward (engine : Engine σ) (cluster : Nat) (target : CoreModel) : Action σ Nat := do
  let sequence := (← get).controller.sequence
  let some goal := sequence.position? target | fail (.switch cluster (.notInSequence target))
  walk engine cluster goal target (sequence.length + 1) 0

def enter (engine : Engine σ) (fidelity : CoreModel) : Action σ Unit := do
  let clusters := (← get).controller.sets.length
  (List.range clusters).forM fun cluster => do
    let _ ← stepToward engine cluster fidelity

def revertAll (engine : Engine σ) : Action σ Unit := do
  enter engine (← get).controller.sequence.first

def ensureCheckpointable : Action σ Unit := do
  ofExcept (← get).controller.ensureCheckpointable

end Mainboard.Action
