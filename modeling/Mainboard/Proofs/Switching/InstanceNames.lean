import Mainboard.Proofs.Switching.Instances
import Mainboard.Proofs.Topology.Numbering
import Mainboard.Proofs.Topology.WellFormed

/-!
# Names of instances

The first instance of a slot is named by the path of its core, the others by
their model and by the number of the core.  Paths have a dot, and the other
names have none.  Before the first underscore of such a name stands the model,
and after it the number, by which cores are counted through all clusters.  So no
two instances of a machine have one name.
-/

namespace Mainboard

theorem CoreModel.tag_injective : Function.Injective CoreModel.tag := by
  intro first second same
  cases first <;> cases second <;> first | rfl | exact absurd same (by decide)

theorem CoreModel.dot_notMem_tag (model : CoreModel) : '.' ∉ model.tag.toList := by
  cases model <;> decide

theorem CoreModel.underscore_notMem_tag (model : CoreModel) : '_' ∉ model.tag.toList := by
  cases model <;> decide

theorem Cluster.IsPlaced.dot_mem_path {cluster : Cluster} (placed : cluster.IsPlaced)
    {core : Core} (member : core ∈ cluster.cores) : '.' ∈ core.path.toList := by
  obtain ⟨rest, path⟩ := placed.inside member
  rw [path, String.toList_append, String.toList_append]
  simp

namespace Topology.IsComposed

variable {topology : Topology} (composed : topology.IsComposed)
include composed

theorem dot_mem_path {core : Core} (member : core ∈ topology.cores) : '.' ∈ core.path.toList := by
  obtain ⟨cluster, listed, inside⟩ := List.mem_flatMap.mp member
  exact (composed.placed cluster listed).dot_mem_path inside

end Topology.IsComposed

namespace Controller

/-- The name of an instance that is switched in. -/
def switchedName (id : Nat) (model : CoreModel) : String := model.tag ++ "_cpus" ++ toString id

theorem switchedName_inj {id other : Nat} {model second : CoreModel}
    (same : switchedName id model = switchedName other second) : id = other ∧ model = second := by
  have lists := congrArg String.toList same
  have cut : ∀ id model, (switchedName id model).toList =
      model.tag.toList ++ '_' :: ("cpus" ++ toString id).toList := by
    intro id model
    rw [switchedName, String.append_assoc, String.toList_append, String.toList_append,
      String.toList_append]
    rfl
  rw [cut, cut] at lists
  obtain ⟨tags, rest⟩ := append_mark_inj (CoreModel.underscore_notMem_tag model)
    (CoreModel.underscore_notMem_tag second) lists
  refine ⟨toString_injective ?_, CoreModel.tag_injective (String.toList_inj.mp tags)⟩
  exact (String.append_right_inj "cpus").mp (String.toList_inj.mp rest)

theorem dot_notMem_switchedName (id : Nat) (model : CoreModel) :
    '.' ∉ (switchedName id model).toList := by
  rw [switchedName, String.toList_append, String.toList_append, List.mem_append, List.mem_append]
  rintro ((tag | middle) | digits)
  · exact CoreModel.dot_notMem_tag model tag
  · exact absurd middle (by decide)
  · exact dot_notMem_toString id digits

/-- The names of the instances of a core, one for each model of a sequence. -/
def instanceNames (sequence : FidelitySequence) (core : Core) : List String :=
  core.path :: sequence.models.tail.map (switchedName core.id)

theorem map_name_instances_slotOf (sequence : FidelitySequence) (options : SwitchOptions)
    (cluster : Cluster) (core : Core) :
    (slotOf sequence options cluster core).instances.map (·.name) =
      instanceNames sequence core := by
  rw [Slot.instances, List.map_cons, slotOf, List.map_map]
  rfl

/-- Names of instances are distinct if the paths and numbers of cores are, and paths have a dot. -/
theorem nodup_flatMap_instanceNames (sequence : FidelitySequence) {cores : List Core}
    (paths : (cores.map (·.path)).Nodup) (ids : (cores.map (·.id)).Nodup)
    (dotted : ∀ core ∈ cores, '.' ∈ core.path.toList) :
    (cores.flatMap (instanceNames sequence)).Nodup := by
  have unlike : ∀ core ∈ cores, ∀ id model, core.path ≠ switchedName id model :=
    fun core member id model same => dot_notMem_switchedName id model (same ▸ dotted core member)
  refine List.nodup_flatMap.mpr ⟨fun core member => ?_, ?_⟩
  · refine List.nodup_cons.mpr ⟨fun listed => ?_, ?_⟩
    · obtain ⟨model, -, same⟩ := List.mem_map.mp listed
      exact unlike core member core.id model same.symm
    · exact sequence.distinct.tail.map fun _ _ same => (switchedName_inj same).2
  · have apart := (List.pairwise_map.mp paths).and (List.pairwise_map.mp ids)
    refine apart.imp_of_mem ?_
    rintro core other member memberToo ⟨path, id⟩ name has hasToo
    obtain rfl | switched := List.mem_cons.mp has
    · obtain same | composed := List.mem_cons.mp hasToo
      · exact path same
      · obtain ⟨model, -, same⟩ := List.mem_map.mp composed
        exact unlike core member other.id model same.symm
    · obtain ⟨model, -, rfl⟩ := List.mem_map.mp switched
      obtain same | again := List.mem_cons.mp hasToo
      · exact unlike other memberToo core.id model same.symm
      · obtain ⟨second, -, same⟩ := List.mem_map.mp again
        exact id (switchedName_inj same).1.symm

/-- The names of all instances, slot by slot. -/
def names (controller : Controller) : List String :=
  controller.sets.flatMap fun set => set.slots.flatMap fun slot => slot.instances.map (·.name)

end Controller

/-- A slot is that of a core: it has one instance for each model of a sequence, in order, all of
them with one identity, which has the number of the core.  The first is at the path of the core and
neither capped nor checked.  The others are as they are asked for. -/
structure Slot.IsOf (slot : Slot) (core : Core) (sequence : FidelitySequence)
    (options : SwitchOptions) : Prop where
  models : slot.instances.map (·.model) = sequence.models
  identities : ∀ made ∈ slot.instances, made.identity = slot.composed.identity
  cpu : slot.composed.identity.cpu = core.id
  name : slot.composed.name = core.path
  uncapped : slot.composed.instructionCap = none
  unchecked : slot.composed.checker = false
  capped : ∀ made ∈ slot.later, made.instructionCap = options.instructionCap
  checked : ∀ made ∈ slot.later, made.checker = options.checker

namespace Controller

theorem isOf_slotOf (sequence : FidelitySequence) (options : SwitchOptions) (cluster : Cluster)
    (core : Core) : (slotOf sequence options cluster core).IsOf core sequence options where
  models := models_slotOf cluster core
  identities := fun _ => identity_slotOf
  cpu := rfl
  name := rfl
  uncapped := rfl
  unchecked := rfl
  capped := List.forall_mem_map.mpr fun _ _ => rfl
  checked := List.forall_mem_map.mpr fun _ _ => rfl

variable {topology : Topology} {sequence : FidelitySequence} {options : SwitchOptions}
variable {fresh : Controller}

theorem names_of_new (built : Controller.new topology sequence options = .ok fresh) :
    fresh.names = topology.cores.flatMap (instanceNames sequence) := by
  have slots : ∀ cluster : Cluster,
      ((freshSet sequence options cluster).slots.flatMap fun slot =>
        slot.instances.map (·.name)) = cluster.cores.flatMap (instanceNames sequence) := by
    intro cluster
    rw [freshSet, List.flatMap_map]
    simp only [map_name_instances_slotOf]
  rw [new_eq_ok built, names, List.flatMap_map, Topology.cores, List.flatMap_assoc]
  simp only [slots]

end Controller

namespace Configuration

variable {configuration : Configuration} {topology : Topology}

/-- No two cores of a machine have one number. -/
theorem nodup_coreIds (accepted : configuration.topology = .ok topology) :
    (topology.cores.map (·.id)).Nodup := by
  obtain ⟨empty, blueprint, started, filled, assembled⟩ := topology_eq_ok accepted
  have built := (Blueprint.IsBuilt.start started).addClusters filled
  have same := Blueprint.identities_of_assemble assembled
  rw [Topology.cores, (AreNumbered.of_identities same built.areNumbered).ids]
  exact List.nodup_range

/-- No two instances that a controller makes for a machine have one name, whatever the sequence.
There is a slot for each core, in order, and no two of them share the number of the core. -/
theorem instances_distinct (accepted : configuration.topology = .ok topology)
    {sequence : FidelitySequence} {options : SwitchOptions} {controller : Controller}
    (built : Controller.new topology sequence options = .ok controller) :
    controller.names.Nodup ∧
      List.Forall₂ (fun set cluster => set.cluster = cluster.index ∧
        List.Forall₂ (fun slot core => slot.IsOf core sequence options) set.slots cluster.cores)
        controller.sets topology.clusters ∧
      ((controller.sets.flatMap (·.slots)).map (·.composed.identity.cpu)).Nodup := by
  have composed := isComposed accepted
  have names : controller.names.Nodup := by
    rw [Controller.names_of_new built]
    exact Controller.nodup_flatMap_instanceNames sequence composed.nodup_corePaths
      (nodup_coreIds accepted) fun _ => composed.dot_mem_path
  refine ⟨names, ?_, ?_⟩
  · rw [Controller.new_eq_ok built, List.forall₂_map_left_iff, List.forall₂_same]
    intro cluster _
    refine ⟨rfl, ?_⟩
    rw [Controller.freshSet, List.forall₂_map_left_iff, List.forall₂_same]
    exact fun core _ => Controller.isOf_slotOf sequence options cluster core
  · have cpus : (controller.sets.flatMap (·.slots)).map (·.composed.identity.cpu) =
        topology.cores.map (·.id) := by
      rw [Controller.new_eq_ok built, List.flatMap_map, List.map_flatMap, Topology.cores,
        List.map_flatMap]
      simp only [Controller.freshSet, List.map_map]
      rfl
    rw [cpus]
    exact nodup_coreIds accepted

/-- Two clusters, with two cores and with one. -/
def three : Configuration where
  clusters := [{ cores := 2 }, {}]

theorem instances_distinct_three : ∃ topology controller, three.topology = .ok topology ∧
    Controller.new topology .standard {} = .ok controller ∧ controller.names.Nodup ∧
    controller.names.length = 9 ∧ "o3_cpus2" ∈ controller.names := by
  have made : ∃ topology controller, three.topology = .ok topology ∧
      Controller.new topology .standard {} = .ok controller ∧ controller.names.length = 9 ∧
      "o3_cpus2" ∈ controller.names :=
    ⟨_, _, rfl, rfl, rfl, by decide⟩
  obtain ⟨topology, controller, accepted, built, counted, among⟩ := made
  obtain ⟨distinct, -⟩ := instances_distinct accepted built
  exact ⟨topology, controller, accepted, built, distinct, counted, among⟩

end Configuration

end Mainboard
