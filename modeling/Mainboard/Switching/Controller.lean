import Mainboard.Switching.Sequence
import Mainboard.Topology.Basic

/-!
# Switching controllers

Every core of a machine is a slot with one instance for each fidelity, of which
one is active.  The slots of a cluster are switched together: a batch names
them all and takes the cluster's token, and the batch that holds the token is
committed, which makes its instances active, or aborted, which poisons the
cluster for good.
-/

namespace Mainboard

/-- What all instances of one core share. -/
structure CoreIdentity where
  cpu : Nat
  isa : String
  workload : String
  clockDomain : String
  clock : Frequency
  deriving DecidableEq

/-- A core at one fidelity. -/
structure CoreInstance where
  name : String
  model : CoreModel
  instructionCap : Option UInt64
  checker : Bool
  identity : CoreIdentity
  deriving DecidableEq

/-- A core with its instances in the order of the sequence, and the position
of the active one. -/
structure Slot where
  composed : CoreInstance
  later : List CoreInstance
  active : Nat
  deriving DecidableEq

namespace Slot

def instances (slot : Slot) : List CoreInstance := slot.composed :: slot.later

def instanceAt (slot : Slot) (position : Nat) : CoreInstance :=
  slot.instances.getD position slot.composed

def activeInstance (slot : Slot) : CoreInstance := slot.instanceAt slot.active

end Slot

/-- Whether a cluster can be switched. -/
inductive SetState
  | idle
  /-- A batch with a token is not complete. -/
  | inFlight (token : Nat)
  /-- A batch was aborted. -/
  | poisoned
  deriving DecidableEq

/-- The slots of one cluster. -/
structure SlotSet where
  cluster : Nat
  slots : List Slot
  state : SetState := .idle
  deriving DecidableEq

namespace SlotSet

def isPoisoned (set : SlotSet) : Bool := set.state = .poisoned

def isInFlight (set : SlotSet) : Bool :=
  match set.state with
  | .inFlight _ => true
  | .idle | .poisoned => false

/-- The position on which all slots are active, if there are slots and one position. -/
def commonActive? (set : SlotSet) : Option Nat :=
  match set.slots with
  | [] => none
  | slot :: slots => if slots.all (·.active = slot.active) then some slot.active else none

def activate (set : SlotSet) (position : Nat) : SlotSet :=
  { set with slots := set.slots.map fun slot => { slot with active := position } }

end SlotSet

/-- The hand-over of one slot. -/
structure SwitchPair where
  slot : Nat
  outgoing : CoreInstance
  incoming : CoreInstance
  deriving DecidableEq

/-- A switch of all slots of a cluster from one position to the next. -/
structure Batch where
  token : Nat
  cluster : Nat
  source : Nat
  target : Nat
  pairs : List SwitchPair
  deriving DecidableEq

/-- What cores that are switched in are built with. -/
structure SwitchOptions where
  instructionCap : Option UInt64 := none
  checker : Bool := false
  deriving DecidableEq

/-- The fidelities of a run and the slots of every cluster. -/
structure Controller where
  sequence : FidelitySequence
  sets : List SlotSet
  deriving DecidableEq

namespace Controller

def identityOf (cluster : Cluster) (core : Core) : CoreIdentity where
  cpu := core.id
  isa := core.path ++ ".isa"
  workload := core.path ++ ".workload"
  clockDomain := cluster.name ++ ".clk_domain"
  clock := cluster.clock

def composedInstance (model : CoreModel) (cluster : Cluster) (core : Core) : CoreInstance where
  name := core.path
  model
  instructionCap := none
  checker := false
  identity := identityOf cluster core

def switchedInstance (options : SwitchOptions) (cluster : Cluster) (core : Core)
    (model : CoreModel) : CoreInstance where
  name := model.tag ++ "_cpus" ++ toString core.id
  model
  instructionCap := options.instructionCap
  checker := options.checker
  identity := identityOf cluster core

/-- The slot of a core, on the first fidelity. -/
def slotOf (sequence : FidelitySequence) (options : SwitchOptions) (cluster : Cluster)
    (core : Core) : Slot where
  composed := composedInstance sequence.first cluster core
  later := sequence.models.tail.map (switchedInstance options cluster core)
  active := 0

/-- The slots of a cluster, which is composed from the first fidelity. -/
def setOf (sequence : FidelitySequence) (options : SwitchOptions) (cluster : Cluster) :
    Except Error SlotSet :=
  if cluster.model = sequence.first then
    .ok { cluster := cluster.index, slots := cluster.cores.map (slotOf sequence options cluster) }
  else .error (.invalid (.firstFidelity cluster.index cluster.model sequence.first))

/-- The controller of a machine, with every cluster on the first fidelity. -/
def new (topology : Topology) (sequence : FidelitySequence) (options : SwitchOptions) :
    Except Error Controller :=
  (topology.clusters.mapM (setOf sequence options)).map fun sets => ⟨sequence, sets⟩

def activeFidelity? (controller : Controller) (cluster : Nat) : Option CoreModel := do
  let set ← controller.sets[cluster]?
  controller.sequence.model? (← set.commonActive?)

def slotFidelity? (controller : Controller) (cluster slot : Nat) : Option CoreModel := do
  let set ← controller.sets[cluster]?
  let found ← set.slots[slot]?
  return found.activeInstance.model

def set (controller : Controller) (cluster : Nat) : Except Error SlotSet :=
  match controller.sets[cluster]? with
  | some set => .ok set
  | none => .error (.invalid (.noCluster cluster))

def modifySet (controller : Controller) (cluster : Nat) (change : SlotSet → SlotSet) :
    Controller :=
  { controller with sets := controller.sets.modify cluster change }

@[simp]
theorem length_modifySet (controller : Controller) (cluster : Nat)
    (change : SlotSet → SlotSet) :
    (controller.modifySet cluster change).sets.length = controller.sets.length := by
  simp [modifySet]

/-- The slots among the first some that a request names. -/
def covered (slots : Nat) (requests : List (Nat × CoreModel)) : Nat :=
  (List.range slots).countP fun slot => requests.any (·.1 = slot)

def adjacent (source target : Nat) : Bool := source + 1 = target || target + 1 = source

/-- The positions that a request switches a cluster between, or the first
reason to refuse it: the cluster is poisoned or in flight, a slot is unknown,
not every slot is named once, the targets differ, the target is in no
position, or it is not next to where the slots are. -/
def plan (controller : Controller) (set : SlotSet) (requests : List (Nat × CoreModel)) :
    Except SwitchFault (Nat × Nat) := do
  match set.state with
  | .poisoned => throw .clusterPoisoned
  | .inFlight _ => throw .switchInFlight
  | .idle => pure ()
  let slots := set.slots.length
  if let some (slot, _) := requests.find? fun request => slots ≤ request.1 then
    throw (.unknownSlot slot)
  let covered := covered slots requests
  if covered ≠ slots ∨ requests.length ≠ slots then throw (.partialBatch covered slots)
  match requests with
  | [] => throw (.partialBatch 0 slots)
  | (_, model) :: rest =>
      if rest.any (·.2 ≠ model) then throw .mixedTargets
      let some target := controller.sequence.position? model | throw (.notInSequence model)
      let some source := set.commonActive? | throw .mixedFidelity
      if !adjacent source target then
        throw (.notAdjacent ((controller.sequence.model? source).getD .atomic) model)
      return (source, target)

def pairs (set : SlotSet) (source target : Nat) : List SwitchPair :=
  set.slots.mapIdx fun index slot =>
    { slot := index, outgoing := slot.instanceAt source, incoming := slot.instanceAt target }

/-- Begins a switch: the cluster is in flight until the batch with its token
is committed or aborted. -/
def begin (controller : Controller) (token cluster : Nat) (requests : List (Nat × CoreModel)) :
    Except Error (Batch × Controller) := do
  let set ← controller.set cluster
  let (source, target) ← (controller.plan set requests).mapError (.switch cluster)
  return ({ token, cluster, source, target, pairs := pairs set source target },
    controller.modifySet cluster fun set => { set with state := .inFlight token })

def holds (controller : Controller) (batch : Batch) : Bool :=
  match controller.sets[batch.cluster]? with
  | some set => set.state = .inFlight batch.token
  | none => false

/-- Makes the incoming instances of a batch active and lets go of the token. -/
def commit (controller : Controller) (batch : Batch) : Except Error Controller :=
  if controller.holds batch then
    .ok (controller.modifySet batch.cluster fun set =>
      { set.activate batch.target with state := .idle })
  else .error (.switch batch.cluster .staleBatch)

def abort (controller : Controller) (batch : Batch) : Except Error Controller :=
  if controller.holds batch then
    .ok (controller.modifySet batch.cluster fun set => { set with state := .poisoned })
  else .error (.switch batch.cluster .staleBatch)

/-- The first slot of a cluster that is not on the first fidelity. -/
def offFirst? (set : SlotSet) : Option (Nat × Slot) :=
  (set.slots.mapIdx fun index slot => (index, slot)).find? fun entry => entry.2.active ≠ 0

/-- Every slot is on the first fidelity, or the first that is not, cluster by cluster. -/
def ensureCheckpointable (controller : Controller) : Except Error Unit :=
  controller.sets.forM fun set =>
    match offFirst? set with
    | none => .ok ()
    | some (index, slot) =>
        .error (.checkpointFidelity set.cluster index slot.activeInstance.model
          controller.sequence.first)

end Controller

end Mainboard
