import Mainboard.Proofs.Switching.Batches

/-!
# The instances of a controller

A controller is made with one slot for each core and one instance for each
fidelity, and nothing that happens to it later exchanges them.  `Follows` says
so: a controller follows another if it differs in states and in positions
only, each cluster being as a whole on one position of the sequence.
-/

namespace Mainboard

namespace SlotSet

/-- A cluster moved to a position and put into a state. -/
def placed (set : SlotSet) (position : Nat) (state : SetState) : SlotSet :=
  { set.activate position with state }

@[simp]
theorem slots_placed (set : SlotSet) (position : Nat) (state : SetState) :
    (set.placed position state).slots =
      set.slots.map fun slot => { slot with active := position } :=
  rfl

theorem activate_placed (set : SlotSet) (first second : Nat) (earlier later : SetState) :
    { (set.placed first earlier).activate second with state := later } =
      set.placed second later := by
  simp [placed, activate]

theorem commonActive?_placed {set : SlotSet} (position : Nat) (state : SetState)
    (staffed : set.slots ≠ []) : (set.placed position state).commonActive? = some position :=
  (commonActive?_congr rfl).trans (commonActive?_activate position staffed)

end SlotSet

namespace Controller

section New

variable {topology : Topology} {sequence : FidelitySequence} {options : SwitchOptions}
variable {fresh : Controller}

/-- The slots of a cluster, all on the first fidelity. -/
def freshSet (sequence : FidelitySequence) (options : SwitchOptions) (cluster : Cluster) :
    SlotSet where
  cluster := cluster.index
  slots := cluster.cores.map (slotOf sequence options cluster)

theorem mapM_setOf_eq_ok {clusters : List Cluster} {sets : List SlotSet}
    (built : clusters.mapM (setOf sequence options) = .ok sets) :
    sets = clusters.map (freshSet sequence options) := by
  induction clusters generalizing sets with
  | nil => exact (Except.ok.inj built).symm
  | cons cluster clusters ih =>
      rw [List.mapM_cons] at built
      by_cases composed : cluster.model = sequence.first
      · cases rest : clusters.mapM (setOf sequence options) with
        | error error => simp [setOf, composed, rest, bind, Except.bind] at built
        | ok later =>
            simp only [setOf, composed, ↓reduceIte, rest, bind, Except.bind, pure, Except.pure,
              Except.ok.injEq] at built
            rw [← built, ih rest, List.map_cons]
            rfl
      · simp [setOf, composed, bind, Except.bind] at built

/-- A new controller has the slots of every cluster, in order. -/
theorem new_eq_ok (built : Controller.new topology sequence options = .ok fresh) :
    fresh = ⟨sequence, topology.clusters.map (freshSet sequence options)⟩ := by
  rw [Controller.new] at built
  cases sets : topology.clusters.mapM (setOf sequence options) with
  | error error => simp [sets, Except.map] at built
  | ok made =>
      rw [sets] at built
      rw [← Except.ok.inj built, mapM_setOf_eq_ok sets]

theorem flight?_new (built : Controller.new topology sequence options = .ok fresh)
    (cluster : Nat) : fresh.flight? cluster = none := by
  rw [flight?, new_eq_ok built, List.getElem?_map]
  cases topology.clusters[cluster]? <;> rfl

theorem models_slotOf (cluster : Cluster) (core : Core) :
    (slotOf sequence options cluster core).instances.map (·.model) = sequence.models := by
  have models : (sequence.models.tail.map (switchedInstance options cluster core)).map (·.model) =
      sequence.models.tail := by
    rw [List.map_map]
    exact List.map_id _
  rw [Slot.instances, List.map_cons, slotOf, models]
  exact List.cons_head_tail sequence.nonempty

theorem identity_slotOf {cluster : Cluster} {core : Core} {made : CoreInstance}
    (member : made ∈ (slotOf sequence options cluster core).instances) :
    made.identity = identityOf cluster core := by
  rcases List.mem_cons.mp member with rfl | later
  · rfl
  · obtain ⟨model, -, rfl⟩ := List.mem_map.mp later
    rfl

end New

/-- A controller has the sequence and the instances of another, and each of its
clusters is on one position of the sequence. -/
structure Follows (fresh controller : Controller) : Prop where
  sequence_eq : controller.sequence = fresh.sequence
  length_eq : controller.sets.length = fresh.sets.length
  placed : ∀ {cluster : Nat} {origin : SlotSet}, fresh.sets[cluster]? = some origin →
    ∃ position < fresh.sequence.length, ∃ state,
      controller.sets[cluster]? = some (origin.placed position state)

namespace Follows

variable {fresh controller : Controller}

/-- A change of one cluster that leaves it on some position keeps a controller
in line. -/
theorem modifySet (follows : Follows fresh controller) {cluster : Nat} {change : SlotSet → SlotSet}
    (stays : ∀ origin position state, fresh.sets[cluster]? = some origin →
      position < fresh.sequence.length →
      controller.sets[cluster]? = some (origin.placed position state) →
      ∃ next < fresh.sequence.length, ∃ later,
        change (origin.placed position state) = origin.placed next later) :
    Follows fresh (controller.modifySet cluster change) where
  sequence_eq := follows.sequence_eq
  length_eq := by simpa using follows.length_eq
  placed := by
    intro other origin first
    obtain ⟨position, inside, state, found⟩ := follows.placed first
    rw [getElem?_modifySet, found]
    split
    next same =>
      subst same
      obtain ⟨next, nextInside, later, changed⟩ := stays origin position state first inside found
      exact ⟨next, nextInside, later, congrArg some changed⟩
    next => exact ⟨position, inside, state, rfl⟩

theorem modifySet_state (follows : Follows fresh controller) (cluster : Nat) (state : SetState) :
    Follows fresh (controller.modifySet cluster fun set => { set with state }) :=
  follows.modifySet fun _ position _ _ inside _ => ⟨position, inside, state, rfl⟩

theorem held (follows : Follows fresh controller) (batch : Batch) :
    Follows fresh (controller.held batch) :=
  follows.modifySet_state _ _

theorem aborted (follows : Follows fresh controller) (batch : Batch) :
    Follows fresh (controller.aborted batch) :=
  follows.modifySet_state _ _

theorem committed (follows : Follows fresh controller) {batch : Batch}
    (inside : batch.target < fresh.sequence.length) : Follows fresh (controller.committed batch) :=
  follows.modifySet fun origin position state _ _ _ =>
    ⟨batch.target, inside, .idle, origin.activate_placed position batch.target state .idle⟩

theorem exists_placed (follows : Follows fresh controller) {cluster : Nat} {set : SlotSet}
    (found : controller.sets[cluster]? = some set) :
    ∃ origin, fresh.sets[cluster]? = some origin ∧ ∃ position < fresh.sequence.length, ∃ state,
      set = origin.placed position state := by
  have inside : cluster < fresh.sets.length := by
    rw [← follows.length_eq]
    exact (List.getElem?_eq_some_iff.mp found).1
  obtain ⟨position, positionInside, state, placed⟩ :=
    follows.placed (List.getElem?_eq_getElem inside)
  refine ⟨_, List.getElem?_eq_getElem inside, position, positionInside, state, ?_⟩
  exact Option.some.inj (found.symm.trans placed)

theorem exists_common (follows : Follows fresh controller)
    (staffed : ∀ origin ∈ fresh.sets, origin.slots ≠ []) {cluster : Nat} {set : SlotSet}
    (found : controller.sets[cluster]? = some set) :
    ∃ position < fresh.sequence.length, set.commonActive? = some position := by
  obtain ⟨origin, first, position, inside, state, rfl⟩ := follows.exists_placed found
  have slots := staffed origin (List.mem_of_getElem? first)
  exact ⟨position, inside, SlotSet.commonActive?_placed position state slots⟩

theorem lt_of_common (follows : Follows fresh controller) {cluster position : Nat} {set : SlotSet}
    (found : controller.sets[cluster]? = some set) (common : set.commonActive? = some position) :
    position < fresh.sequence.length := by
  obtain ⟨origin, -, other, inside, state, rfl⟩ := follows.exists_placed found
  have slots : origin.slots ≠ [] := by
    simpa using (SlotSet.commonActive?_eq_some_iff.mp common).1
  rw [SlotSet.commonActive?_placed other state slots] at common
  exact Option.some.inj common ▸ inside

theorem instances_eq (follows : Follows fresh controller) :
    controller.sets.map (fun set => set.slots.map Slot.instances) =
      fresh.sets.map fun set => set.slots.map Slot.instances := by
  apply List.ext_getElem?
  intro cluster
  rw [List.getElem?_map, List.getElem?_map]
  cases first : fresh.sets[cluster]? with
  | none =>
      have outside := List.getElem?_eq_none_iff.mp first
      rw [← follows.length_eq] at outside
      rw [List.getElem?_eq_none outside]
  | some origin =>
      obtain ⟨position, -, state, found⟩ := follows.placed first
      rw [found, Option.map_some, Option.map_some, SlotSet.slots_placed, List.map_map]
      rfl

end Follows

section New

variable {topology : Topology} {sequence : FidelitySequence} {options : SwitchOptions}
variable {fresh : Controller}

theorem follows_new (built : Controller.new topology sequence options = .ok fresh) :
    Follows fresh fresh where
  sequence_eq := rfl
  length_eq := rfl
  placed := by
    intro cluster origin first
    have made := new_eq_ok built
    refine ⟨0, ?_, .idle, ?_⟩
    · rw [made]
      exact List.length_pos_iff.mpr sequence.nonempty
    · rw [made, List.getElem?_map] at first
      obtain ⟨composed, -, rfl⟩ := Option.map_eq_some_iff.mp first
      rw [made, List.getElem?_map, first]
      simp [SlotSet.placed, SlotSet.activate, freshSet, slotOf]

theorem slots_ne_nil_of_new (built : Controller.new topology sequence options = .ok fresh)
    (staffed : ∀ cluster ∈ topology.clusters, cluster.cores ≠ []) :
    ∀ set ∈ fresh.sets, set.slots ≠ [] := by
  intro set member
  rw [new_eq_ok built] at member
  obtain ⟨cluster, listed, rfl⟩ := List.mem_map.mp member
  simpa [freshSet] using staffed cluster listed

/-- Every slot of a new controller is that of a core, with an instance for each fidelity. -/
theorem models_of_new (built : Controller.new topology sequence options = .ok fresh)
    {set : SlotSet} (member : set ∈ fresh.sets) {slot : Slot} (inside : slot ∈ set.slots) :
    slot.instances.map (·.model) = fresh.sequence.models := by
  rw [new_eq_ok built] at member ⊢
  obtain ⟨cluster, -, rfl⟩ := List.mem_map.mp member
  obtain ⟨core, -, rfl⟩ := List.mem_map.mp inside
  exact models_slotOf cluster core

/-- The instance of a new controller's slot at a position has the model there. -/
theorem model?_of_new (built : Controller.new topology sequence options = .ok fresh)
    {set : SlotSet} (member : set ∈ fresh.sets) {slot : Slot} (inside : slot ∈ set.slots)
    {position : Nat} (bound : position < fresh.sequence.length) :
    slot.instances[position]? = some (slot.instanceAt position) ∧
      fresh.sequence.model? position = some (slot.instanceAt position).model := by
  have models := models_of_new built member inside
  have stored : position < slot.instances.length := by
    rwa [FidelitySequence.length, ← models, List.length_map] at bound
  have found : slot.instances[position]? = some (slot.instanceAt position) := by
    rw [Slot.instanceAt, List.getD_eq_getElem?_getD, List.getElem?_eq_getElem stored,
      Option.getD_some]
  refine ⟨found, ?_⟩
  rw [FidelitySequence.model?, ← models, List.getElem?_map, found, Option.map_some]

theorem identity_of_new (built : Controller.new topology sequence options = .ok fresh)
    {set : SlotSet} (member : set ∈ fresh.sets) {slot : Slot} (inside : slot ∈ set.slots)
    {made : CoreInstance} (listed : made ∈ slot.instances) :
    made.identity = slot.composed.identity := by
  rw [new_eq_ok built] at member
  obtain ⟨cluster, -, rfl⟩ := List.mem_map.mp member
  obtain ⟨core, -, rfl⟩ := List.mem_map.mp inside
  exact identity_slotOf listed

end New

end Controller

/-- A machine with two cores in its only cluster. -/
def Topology.dual : Topology where
  platform := { name := "bare", regions := [], interruptControllerAddress := none }
  memoryMode := .atomic
  requestedMemory := .gib 1
  memoryRanges := []
  clusters :=
    [{ index := 0
       model := .atomic
       clock := .ghz 2
       voltage := .standard
       cores := (List.range 2).map fun place =>
         { path := Cluster.corePath 0 place
           id := place
           socket := 0
           threads := 1
           interruptController := "gic"
           interruptControllerAddress := none }
       presets := .none
       requests := {} }]
  sharedL3 := none
  depth := 2
  cachesEnabled := false
  interconnect := .base [] none

/-- The controller of that machine, for the standard sequence. -/
def Controller.dual : Controller where
  sequence := .standard
  sets := Topology.dual.clusters.map (freshSet .standard {})

theorem Controller.new_dual : Controller.new .dual .standard {} = .ok .dual :=
  rfl

/-- A machine with one core in each of its two clusters. -/
def Topology.twins : Topology :=
  { Topology.dual with
    clusters := (List.range 2).map fun index =>
      { index
        model := .atomic
        clock := .ghz 2
        voltage := .standard
        cores := [
          { path := Cluster.corePath index 0
            id := index
            socket := index
            threads := 1
            interruptController := "gic"
            interruptControllerAddress := none }]
        presets := .none
        requests := {} } }

/-- The controller of that machine, for the standard sequence. -/
def Controller.twins : Controller where
  sequence := .standard
  sets := Topology.twins.clusters.map (freshSet .standard {})

theorem Controller.new_twins : Controller.new .twins .standard {} = .ok .twins :=
  rfl

end Mainboard
