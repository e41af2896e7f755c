import Mainboard.Proofs.Bench.Steps
import Mainboard.Proofs.Switching.Instances

/-!
# Controllers under one source of tokens

The controllers of a process draw their tokens from one source, and a batch
that one of them has begun can be shown to any of them, as often as one likes.
A registry holds the controllers, the source and the batches.  It serves
requests one at a time: to begin a batch, to complete one, or to run an errand
with some engine in some state.  What it amounts to when a request is served is
said once here, with one case for each kind of answer.
-/

namespace Mainboard

/-- Controllers that share one source of tokens, and the batches begun so far,
each with the number of the controller that began it. -/
structure Registry where
  controllers : List Controller
  nextToken : Nat := 1
  begun : List (Nat × Batch) := []

/-- The two ways to complete a batch. -/
inductive Completion
  | commit
  | abort
  deriving DecidableEq

namespace Controller

def complete (controller : Controller) : Completion → Batch → Except Error Controller
  | .commit, batch => controller.commit batch
  | .abort, batch => controller.abort batch

/-- The controller once a batch is completed. -/
def completed (controller : Controller) : Completion → Batch → Controller
  | .commit, batch => controller.committed batch
  | .abort, batch => controller.aborted batch

end Controller

/-- What a controller does through an engine. -/
inductive Errand
  | switchSlots (cluster : Nat) (requests : List (Nat × CoreModel))
  | switchTo (cluster : Nat) (target : CoreModel)
  | stepToward (cluster : Nat) (target : CoreModel)
  | revertAll
  | run (topology : Topology) (options : RunOptions) (patience : Nat)

def Errand.action {σ : Type} (engine : Engine σ) : Errand → Action σ Unit
  | .switchSlots cluster requests => Action.switchSlots engine cluster requests
  | .switchTo cluster target => Action.switchTo engine cluster target
  | .stepToward cluster target => do let _ ← Action.stepToward engine cluster target
  | .revertAll => Action.revertAll engine
  | .run topology options patience => do let _ ← Action.run engine topology options patience

/-- What a controller is asked for.  A batch is named by its number among those begun. -/
inductive Request : Type 1
  | begin (cluster : Nat) (requests : List (Nat × CoreModel))
  | complete (way : Completion) (serial : Nat)
  | errand {σ : Type} (engine : Engine σ) (state : σ) (errand : Errand)

/-- A request that a controller has answered, with the calls of the engine. -/
structure Event where
  caller : Nat
  request : Request
  reply : Except Halt Unit
  ledger : List LedgerEntry

namespace Registry

def replace (registry : Registry) (number : Nat) (controller : Controller) : Registry :=
  { registry with controllers := registry.controllers.set number controller }

/-- The registry once a controller has begun a batch. -/
def add (registry : Registry) (number : Nat) (controller : Controller) (batch : Batch) :
    Registry where
  controllers := registry.controllers.set number (controller.held batch)
  nextToken := registry.nextToken + 1
  begun := registry.begun ++ [(number, batch)]

/-- The bench at which a controller runs an errand. -/
def bench {σ : Type} (registry : Registry) (controller : Controller) (state : σ) : Bench σ where
  engine := state
  controller
  nextToken := registry.nextToken

/-- The registry once a controller is back from an errand. -/
def settle {σ : Type} (registry : Registry) (number : Nat) (bench : Bench σ) : Registry :=
  { registry.replace number bench.controller with nextToken := bench.nextToken }

/-- A controller's answer to a request.  There is none about a batch that nobody has begun. -/
def answer (registry : Registry) (number : Nat) (controller : Controller) :
    Request → Option (Event × Registry)
  | .begin cluster requests =>
      match controller.begin registry.nextToken cluster requests with
      | .ok (batch, next) =>
          some (⟨number, .begin cluster requests, .ok (), []⟩,
            { controllers := registry.controllers.set number next
              nextToken := registry.nextToken + 1
              begun := registry.begun ++ [(number, batch)] })
      | .error error =>
          some (⟨number, .begin cluster requests, .error (.failed error), []⟩, registry)
  | .complete way serial =>
      registry.begun[serial]?.map fun entry =>
        match controller.complete way entry.2 with
        | .ok next => (⟨number, .complete way serial, .ok (), []⟩, registry.replace number next)
        | .error error =>
            (⟨number, .complete way serial, .error (.failed error), []⟩, registry)
  | .errand engine state errand =>
      match errand.action engine (registry.bench controller state) with
      | .ok _ bench =>
          some (⟨number, .errand engine state errand, .ok (), bench.ledger⟩,
            registry.settle number bench)
      | .error halt bench =>
          some (⟨number, .errand engine state errand, .error halt, bench.ledger⟩,
            registry.settle number bench)

/-- Has a request answered by the controller with a number, if there is one. -/
def serve (registry : Registry) (number : Nat) (request : Request) : Option (Event × Registry) :=
  registry.controllers[number]?.bind fun controller => registry.answer number controller request

/-- What it amounts to when a controller answers a request. -/
inductive Serves (registry : Registry) (number : Nat) (controller : Controller) :
    Event → Registry → Prop
  | begun {cluster : Nat} {requests : List (Nat × CoreModel)} {batch : Batch}
      (begun : controller.begin registry.nextToken cluster requests =
        .ok (batch, controller.held batch)) :
      Serves registry number controller ⟨number, .begin cluster requests, .ok (), []⟩
        (registry.add number controller batch)
  | refused {cluster : Nat} {requests : List (Nat × CoreModel)} {error : Error}
      (refused : controller.begin registry.nextToken cluster requests = .error error) :
      Serves registry number controller
        ⟨number, .begin cluster requests, .error (.failed error), []⟩ registry
  | completed {way : Completion} {serial owner : Nat} {batch : Batch}
      (listed : registry.begun[serial]? = some (owner, batch))
      (holds : controller.flight? batch.cluster = some batch.token) :
      Serves registry number controller ⟨number, .complete way serial, .ok (), []⟩
        (registry.replace number (controller.completed way batch))
  | stale {way : Completion} {serial owner : Nat} {batch : Batch}
      (listed : registry.begun[serial]? = some (owner, batch))
      (free : controller.flight? batch.cluster ≠ some batch.token) :
      Serves registry number controller
        ⟨number, .complete way serial, .error (.failed (.switch batch.cluster .staleBatch)), []⟩
        registry
  | errand {σ : Type} {engine : Engine σ} {state : σ} {errand : Errand}
      {result : Except Halt Unit} {bench : Bench σ}
      (ended : Action.Ends (errand.action engine) (registry.bench controller state) result bench) :
      Serves registry number controller
        ⟨number, .errand engine state errand, result, bench.ledger⟩ (registry.settle number bench)

end Registry

namespace Controller

variable {controller after : Controller} {batch : Batch}

theorem complete_eq_ok_iff {way : Completion} :
    controller.complete way batch = .ok after ↔
      controller.flight? batch.cluster = some batch.token ∧
        after = controller.completed way batch := by
  cases way with
  | commit => exact commit_eq_ok_iff
  | abort => exact abort_eq_ok_iff

theorem complete_eq_error_iff {way : Completion} {error : Error} :
    controller.complete way batch = .error error ↔
      controller.flight? batch.cluster ≠ some batch.token ∧
        error = .switch batch.cluster .staleBatch := by
  cases way with
  | commit => exact commit_eq_error_iff
  | abort => exact abort_eq_error_iff

end Controller

namespace Registry

variable {registry next : Registry} {number : Nat} {request : Request} {event : Event}

theorem serves_of_answer {controller : Controller}
    (answered : registry.answer number controller request = some (event, next)) :
    event.caller = number ∧ event.request = request ∧
      registry.Serves number controller event next := by
  cases request with
  | begin cluster requests =>
      cases begun : controller.begin registry.nextToken cluster requests with
      | ok made =>
          obtain ⟨batch, held⟩ := made
          obtain ⟨-, rfl, -⟩ := Controller.begin_eq_ok begun
          simp only [answer, begun, Option.some.injEq, Prod.mk.injEq] at answered
          obtain ⟨rfl, rfl⟩ := answered
          exact ⟨rfl, rfl, .begun begun⟩
      | error error =>
          simp only [answer, begun, Option.some.injEq, Prod.mk.injEq] at answered
          obtain ⟨rfl, rfl⟩ := answered
          exact ⟨rfl, rfl, .refused begun⟩
  | complete way serial =>
      obtain ⟨⟨owner, batch⟩, listed, completed⟩ := Option.map_eq_some_iff.mp answered
      cases ended : controller.complete way batch with
      | ok after =>
          obtain ⟨holds, rfl⟩ := Controller.complete_eq_ok_iff.mp ended
          simp only [ended, Prod.mk.injEq] at completed
          obtain ⟨rfl, rfl⟩ := completed
          exact ⟨rfl, rfl, .completed listed holds⟩
      | error error =>
          obtain ⟨free, rfl⟩ := Controller.complete_eq_error_iff.mp ended
          simp only [ended, Prod.mk.injEq] at completed
          obtain ⟨rfl, rfl⟩ := completed
          exact ⟨rfl, rfl, .stale listed free⟩
  | errand engine state errand =>
      cases ended : errand.action engine (registry.bench controller state) with
      | ok value bench =>
          simp only [answer, ended, Option.some.injEq, Prod.mk.injEq] at answered
          obtain ⟨rfl, rfl⟩ := answered
          have ending : Action.Ends (errand.action engine) _ (.ok ()) bench := ended
          exact ⟨rfl, rfl, .errand ending⟩
      | error halt bench =>
          simp only [answer, ended, Option.some.injEq, Prod.mk.injEq] at answered
          obtain ⟨rfl, rfl⟩ := answered
          have ending : Action.Ends (errand.action engine) _ (.error halt) bench := ended
          exact ⟨rfl, rfl, .errand ending⟩

/-- Every answer is of one of five kinds. -/
theorem serves_of_serve (served : registry.serve number request = some (event, next)) :
    event.caller = number ∧ event.request = request ∧
      ∃ controller, registry.controllers[number]? = some controller ∧
        registry.Serves number controller event next := by
  obtain ⟨controller, found, answered⟩ := Option.bind_eq_some_iff.mp served
  obtain ⟨caller, same, serves⟩ := serves_of_answer answered
  exact ⟨caller, same, controller, found, serves⟩

end Registry

/-- Two equal controllers. -/
def Registry.duals : Registry where
  controllers := [.dual, .dual]

/-- The first batch that one of them begins: its cluster, from the first fidelity to the second. -/
def Batch.dual : Batch where
  token := 1
  cluster := 0
  source := 0
  target := 1
  pairs := (Topology.dual.clusters.map (Controller.freshSet .standard {})).flatMap
    (Controller.pairs · 0 1)

/-- One controller of two clusters. -/
def Registry.twins : Registry where
  controllers := [.twins]

end Mainboard
