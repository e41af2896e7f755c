import Mainboard.Proofs.Topology.Blueprints

/-!
# Which configurations are accepted

A machine is composed of a configuration if and only if the configuration is
valid: the depth is one of three, the memory fits, every cluster can be added,
there is one, and every monitor has an interrupt for each core.  These
conditions have an order, and the error is that of the first which fails.
-/

namespace Mainboard

namespace ClusterConfiguration

/-- What the composer asks of a cluster. -/
structure IsValid (cluster : ClusterConfiguration) : Prop where
  cores : 0 < cluster.cores
  threads : 0 < cluster.threads
  selfBridged : cluster.model.isSelfBridged → cluster.cores ≤ 4
  fetchTarget : cluster.model.isOutOfOrder → cluster.features.fetch.targetInstructions ≠ some 0
  targetBuffer : cluster.model.isOutOfOrder →
    ∀ predictor, cluster.features.predictor = some predictor →
    ∀ entries, predictor.targetEntries = some entries → ∃ bits ≤ 61, entries.toNat = 2 ^ bits

theorem isValid_iff (cluster : ClusterConfiguration) (warmupInstructions : Option UInt64) :
    cluster.IsValid ↔
      ∀ condition ∈ (cluster.request warmupInstructions).conditions, condition.holds := by
  rw [ClusterRequest.conditions_hold_iff]
  simp only [CoreFeatures.conditions_hold_iff]
  constructor
  · intro valid
    exact ⟨valid.cores, valid.threads, valid.selfBridged, fun detailed =>
      ⟨valid.fetchTarget detailed, valid.targetBuffer detailed⟩⟩
  · rintro ⟨cores, threads, selfBridged, features⟩
    exact ⟨cores, threads, selfBridged, fun detailed => (features detailed).1,
      fun detailed => (features detailed).2⟩

end ClusterConfiguration

namespace Configuration

/-- What composition asks of a configuration. -/
structure IsValid (configuration : Configuration) : Prop where
  depth : configuration.depth = 1 ∨ configuration.depth = 2 ∨ configuration.depth = 3
  memory : configuration.memorySize.bytes.toNat ≤
    Memory.supply configuration.machinePlatform.regions
  clusters : ∀ cluster ∈ configuration.clusters, cluster.IsValid
  inhabited : configuration.clusters ≠ []
  monitors : ∀ cluster ∈ configuration.clusters,
    ∀ interrupts, cluster.monitorInterrupts = some interrupts →
      interrupts.length = cluster.cores

/-- What composition asks of a configuration, in the order in which it is checked. -/
def conditions (configuration : Configuration) : List Condition :=
  Topology.depthCondition configuration.depth ::
    (Memory.conditions configuration.memorySize.bytes configuration.machinePlatform.regions ++
      (configuration.clusterRequests.flatMap ClusterRequest.conditions ++
        ⟨configuration.clusters ≠ [], .noClusters⟩ ::
          ClusterRequest.monitorConditions configuration.clusterRequests))

theorem isValid_iff (configuration : Configuration) :
    configuration.IsValid ↔ ∀ condition ∈ configuration.conditions, condition.holds := by
  have clusters : (∀ condition ∈ configuration.clusterRequests.flatMap ClusterRequest.conditions,
      condition.holds) ↔ ∀ cluster ∈ configuration.clusters, cluster.IsValid := by
    rw [List.forall_mem_flatMap, clusterRequests, List.forall_mem_map]
    simp only [ClusterConfiguration.isValid_iff _ configuration.run.warmupInstructions]
  have monitors : (∀ condition ∈ ClusterRequest.monitorConditions configuration.clusterRequests,
      condition.holds) ↔ ∀ cluster ∈ configuration.clusters,
        ∀ interrupts, cluster.monitorInterrupts = some interrupts →
          interrupts.length = cluster.cores := by
    rw [ClusterRequest.monitorConditions_hold_iff, clusterRequests, List.forall_mem_map]
    simp [ClusterConfiguration.request]
  simp only [conditions, List.forall_mem_cons, List.forall_mem_append, Memory.conditions]
  rw [clusters, monitors]
  constructor
  · intro valid
    exact ⟨valid.depth, ⟨valid.memory, by simp⟩, valid.clusters, valid.inhabited, valid.monitors⟩
  · rintro ⟨depth, ⟨memory, -⟩, clusters, inhabited, monitors⟩
    exact ⟨depth, memory, clusters, inhabited, monitors⟩

theorem obeys_topology (configuration : Configuration) :
    Obeys configuration.conditions configuration.topology := by
  refine .bind (Topology.obeys_checkDepth _) fun _ shallow => ?_
  refine .bind (Blueprint.obeys_start ..) fun empty started => ?_
  refine .bind (empty.obeys_addClusters _) fun blueprint added => ?_
  have built := (Blueprint.IsBuilt.start started).addClusters added
  have assembled := built.obeys_assemble configuration.depth configuration.cachesEnabled
  obtain ⟨ranges, -, rfl⟩ := Except.map_eq_ok_iff.mp started
  rw [Blueprint.conditions_of_addClusters rfl added] at assembled
  have checked := Topology.obeys_checkDepth configuration.depth
  rw [shallow] at checked
  have inhabited : configuration.clusterRequests ≠ [] ↔ configuration.clusters ≠ [] :=
    List.map_eq_nil_iff.not
  rw [propext inhabited] at assembled
  exact assembled.tail (checked.holds_of_ok _ List.mem_cons_self)

theorem exists_topology_iff (configuration : Configuration) :
    (∃ topology, configuration.topology = .ok topology) ↔ configuration.IsValid :=
  configuration.obeys_topology.exists_ok_iff.trans configuration.isValid_iff.symm

/-- Composition accepts the valid configurations and no others.  Of any other it reports the first
condition that does not hold, and what is checked once more in the end is never at fault. -/
theorem accepts_valid_reports_first (configuration : Configuration) :
    ((∃ topology, configuration.topology = .ok topology) ↔ configuration.IsValid) ∧
      (∀ error, configuration.topology = .error error ↔
        FirstViolated configuration.conditions error) ∧
      ∀ blueprint : Blueprint, blueprint.IsBuilt → ∀ depth cachesEnabled topology error,
        Topology.check topology = .error error →
        blueprint.assemble depth cachesEnabled ≠ .error error := by
  have obeys := configuration.obeys_topology
  refine ⟨obeys.exists_ok_iff.trans configuration.isValid_iff.symm,
    fun error => obeys.eq_error_iff, ?_⟩
  intro blueprint built depth cachesEnabled topology error refused failed
  obtain ⟨setting, rfl⟩ := Topology.check_eq_error refused
  have violated := (built.obeys_assemble depth cachesEnabled).eq_error_iff.mp failed
  exact blueprint.not_violated_of_invalid violated

/-- The default configuration is accepted.  Four levels without a cluster are two violations, the
depth being the first. -/
theorem accepts_default_reports_depth :
    (∃ topology, ({} : Configuration).topology = .ok topology) ∧
      ({ depth := 4, clusters := [] } : Configuration).topology = .error (.invalidDepth 4) := by
  refine ⟨(accepts_valid_reports_first {}).1.mpr ?_,
    ((accepts_valid_reports_first { depth := 4, clusters := [] }).2.1 _).mpr ?_⟩
  · constructor
    case depth => decide
    case memory => decide
    case clusters =>
      intro cluster member
      obtain rfl := List.mem_singleton.mp member
      constructor <;> simp [CoreModel.isSelfBridged, CoreModel.isOutOfOrder]
    case inhabited => decide
    case monitors =>
      intro cluster member
      obtain rfl := List.mem_singleton.mp member
      simp
  · exact .here (by simp [Topology.depthCondition])

end Configuration

end Mainboard
