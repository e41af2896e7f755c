import Mainboard.Engine.Basic

/-!
# The bench

A run drives an engine and a controller side by side.  The bench holds both,
the source of switch tokens, and a ledger: every call of the engine, what it
was answered, and how the controller stood when it was made.
-/

namespace Mainboard

/-- A call of the engine with its answer, the tick at which it was made and
the controller as it stood. -/
structure LedgerEntry where
  call : Call
  answer : Except String call.Answer
  tick : UInt64
  controller : Controller

/-- An engine state and a controller under one run. -/
structure Bench (σ : Type) where
  engine : σ
  controller : Controller
  nextToken : Nat := 1
  ledger : List LedgerEntry := []

/-- Why a run stops short: an error, or a number of simulated stretches after
which nobody waits any longer. -/
inductive Halt
  | failed (error : Error)
  | outOfPatience

/-- Something done at a bench. -/
abbrev Action (σ α : Type) : Type := EStateM Halt (Bench σ) α

namespace Action

variable {σ α : Type}

def fail (error : Error) : Action σ α := throw (.failed error)

/-- A result, or giving up with its error. -/
def ofExcept : Except Error α → Action σ α
  | .ok value => pure value
  | .error error => fail error

def attempt (engine : Engine σ) (call : Call) : Action σ (Except String call.Answer) := do
  let bench ← get
  let (answer, next) := engine.answer call bench.engine
  let entry : LedgerEntry :=
    { call, answer, tick := engine.tick bench.engine, controller := bench.controller }
  set { bench with engine := next, ledger := bench.ledger ++ [entry] }
  return answer

def call (engine : Engine σ) (call : Call) : Action σ call.Answer := do
  match ← attempt engine call with
  | .ok answer => return answer
  | .error message => fail (.engine message)

/-- Changes the controller, if it lets itself be changed. -/
def change (update : Controller → Except Error Controller) : Action σ Unit := do
  let bench ← get
  let controller ← ofExcept (update bench.controller)
  set { bench with controller }

end Action

end Mainboard
