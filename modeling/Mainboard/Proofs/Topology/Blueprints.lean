import Mainboard.Proofs.Memory.Allocation
import Mainboard.Proofs.Topology.Clusters
import Mainboard.Proofs.Topology.Requests

/-!
# Blueprints that are built

A blueprint is started and then offered clusters.  However it was built, its
ranges hold the memory that was asked for, and its clusters are numbered and
bare of caches.  Assembly asks for a depth, for clusters and for the interrupts
of their monitors; what it checks once more in the end never fails.
-/

namespace Mainboard

namespace Topology

/-- What is asked of a depth. -/
def depthCondition (depth : UInt8) : Condition where
  holds := depth = 1 ∨ depth = 2 ∨ depth = 3
  error := .invalidDepth depth

theorem obeys_checkDepth (depth : UInt8) : Obeys [depthCondition depth] (checkDepth depth) := by
  refine .check ?_ fun _ => .pure ()
  simp only [depthCondition]
  grind

theorem checkCluster_eq_ok {depth : UInt8} {cachesEnabled : Bool} {cluster : Cluster}
    (l2 : cluster.l2.isSome → 2 ≤ builtLevels depth cachesEnabled)
    (bare : cluster.model.requiresCaches = false → cluster.IsBare) :
    checkCluster depth cachesEnabled cluster = .ok () := by
  have deep : ¬ (cluster.l2.isSome ∧ (depth < 2 ∨ cachesEnabled = false)) := by
    rintro ⟨present, shallow⟩
    have levels := l2 present
    rw [builtLevels] at levels
    rcases shallow with below | rfl
    · have := UInt8.lt_iff_toNat_lt.mp below
      split at levels <;> grind
    · simp at levels
  have needed : ¬ ((cluster.cores.any (·.caches.isSome) || cluster.l2.isSome) &&
      !cluster.model.requiresCaches) := by
    intro bypassed
    simp only [Bool.and_eq_true, Bool.or_eq_true, Bool.not_eq_true', List.any_eq_true] at bypassed
    obtain ⟨cached, bypasses⟩ := bypassed
    rcases cached with ⟨core, member, present⟩ | present
    · simp [(bare bypasses).caches core member] at present
    · simp [(bare bypasses).l2] at present
  rw [checkCluster, if_neg deep, if_neg needed]

theorem checkCluster_eq_error {depth : UInt8} {cachesEnabled : Bool} {cluster : Cluster}
    {error : Error} (refused : checkCluster depth cachesEnabled cluster = .error error) :
    ∃ setting, error = .invalid setting := by
  rw [checkCluster] at refused
  split at refused
  · exact ⟨_, (Except.error.inj refused).symm⟩
  · split at refused
    · exact ⟨_, (Except.error.inj refused).symm⟩
    · cases refused

/-- What a machine is refused for in the end is a setting. -/
theorem check_eq_error {topology : Topology} {error : Error}
    (failed : topology.check = .error error) : ∃ setting, error = .invalid setting := by
  rw [check] at failed
  split at failed
  · cases failed
    exact ⟨_, rfl⟩
  rcases Except.bind_eq_error_iff.mp failed with refused | ⟨_, -, failed⟩
  · obtain ⟨_, cluster, _, -, refused, -⟩ := Except.forM_eq_error_iff.mp refused
    exact checkCluster_eq_error refused
  · split at failed
    · cases failed
      exact ⟨_, rfl⟩
    · cases failed

theorem check_eq_ok {topology : Topology}
    (covered : topology.allocatedMemory = topology.requestedMemory.bytes)
    (clusters : ∀ cluster ∈ topology.clusters,
      checkCluster topology.depth topology.cachesEnabled cluster = .ok ())
    (l3 : topology.sharedL3.isSome = (topology.cachesEnabled && 2 < topology.depth)) :
    topology.check = .ok () := by
  rw [check, if_neg (not_not.mpr covered), Except.forM_eq_ok_iff.mpr clusters,
    if_neg (not_not.mpr l3)]
  rfl

end Topology

namespace Blueprint

theorem isSome_sharedL3_finished (blueprint : Blueprint) (depth : UInt8) (cachesEnabled : Bool)
    (clusters : List Cluster) :
    (blueprint.finished depth cachesEnabled clusters).sharedL3.isSome =
      (cachesEnabled && 2 < depth) := by
  have third : 2 < depth ↔ 3 ≤ depth.toNat := UInt8.lt_iff_toNat_lt
  cases cachesEnabled with
  | false => simp [finished, builtLevels]
  | true => by_cases deep : 3 ≤ depth.toNat <;> simp [finished, builtLevels, third, deep]

/-- What is asked of a blueprint that is assembled. -/
def conditions (blueprint : Blueprint) (depth : UInt8) : List Condition :=
  Topology.depthCondition depth :: ⟨blueprint.clusters ≠ [], .noClusters⟩ ::
    blueprint.clusters.flatMap fun cluster =>
      Cluster.monitorConditions cluster.index cluster.cores.length cluster.monitors

/-- No setting is asked for when a blueprint is assembled. -/
theorem not_violated_of_invalid {blueprint : Blueprint} {depth : UInt8}
    {setting : InvalidSetting} :
    ¬ FirstViolated (blueprint.conditions depth) (.invalid setting) := by
  intro violated
  obtain ⟨condition, member, -, named⟩ := violated.exists_violated
  simp only [conditions, List.mem_cons, List.mem_flatMap] at member
  rcases member with rfl | rfl | ⟨cluster, -, asked⟩
  · cases named
  · cases named
  · cases monitors : cluster.monitors with
    | none => simp [monitors, Cluster.monitorConditions] at asked
    | some request =>
        rw [monitors, Cluster.monitorConditions, List.mem_singleton] at asked
        cases asked.symm ▸ named

/-- A blueprint that was started and then offered clusters, whether or not they were added. -/
inductive IsBuilt : Blueprint → Prop
  | start {platform : Platform} {memorySize : ByteSize} {memoryMode : MemoryMode}
      {deviceCache : Bool} {blueprint : Blueprint}
      (started : start platform memorySize memoryMode deviceCache = .ok blueprint) :
      IsBuilt blueprint
  | offer {blueprint : Blueprint} (built : IsBuilt blueprint) (request : ClusterRequest) :
      IsBuilt (blueprint.offer request).2

namespace IsBuilt

variable {blueprint next : Blueprint}

theorem addCluster {request : ClusterRequest} {index : Nat} (built : blueprint.IsBuilt)
    (added : blueprint.addCluster request = .ok (index, next)) : next.IsBuilt := by
  have offered := built.offer request
  rw [Blueprint.offer, added] at offered
  exact offered

theorem addClusters {requests : List ClusterRequest} (built : blueprint.IsBuilt)
    (added : blueprint.addClusters requests = .ok next) : next.IsBuilt :=
  addClusters_induction built (fun entry built => built.addCluster entry) added

/-- What a start establishes and an added cluster preserves holds of all that is built. -/
theorem induction (built : blueprint.IsBuilt) (holds : Blueprint → Prop)
    (first : ∀ {platform memorySize memoryMode deviceCache started},
      Blueprint.start platform memorySize memoryMode deviceCache = .ok started → holds started)
    (step : ∀ {current after request index}, current.addCluster request = .ok (index, after) →
      holds current → holds after) : holds blueprint := by
  induction built with
  | start started => exact first started
  | @offer current _ request ih =>
      rw [Blueprint.offer]
      split
      next entry => exact step entry ih
      next => exact ih

theorem isSound (built : blueprint.IsBuilt) : blueprint.IsSound :=
  built.induction _ isSound_start fun added sound => sound.addCluster added

/-- The ranges of a blueprint hold the memory that was asked for. -/
theorem total_memoryRanges (built : blueprint.IsBuilt) :
    Memory.total blueprint.memoryRanges = blueprint.memorySize.bytes := by
  refine built.induction
    (fun blueprint => Memory.total blueprint.memoryRanges = blueprint.memorySize.bytes) ?_ ?_
  · intro _ _ _ _ _ started
    obtain ⟨ranges, allocated, rfl⟩ := Except.map_eq_ok_iff.mp started
    exact Memory.total_of_allocate allocated
  · intro _ _ _ _ added covered
    obtain ⟨settings, -, -, rfl⟩ := addCluster_eq_ok added
    exact covered

/-- Nothing that is checked once more fails. -/
theorem check_finished (built : blueprint.IsBuilt) {depth : UInt8} {cachesEnabled : Bool}
    {clusters : List Cluster}
    (monitored : List.Forall₂ (fun cluster done => cluster.addRequestedMonitors = .ok done)
      (blueprint.clusters.map (·.withCaches (builtLevels depth cachesEnabled))) clusters) :
    (blueprint.finished depth cachesEnabled clusters).check = .ok () := by
  refine Topology.check_eq_ok built.total_memoryRanges ?_ ?_
  · intro cluster member
    obtain ⟨cached, among, added⟩ := monitored.exists_of_mem member
    obtain ⟨composed, original, rfl⟩ := List.mem_map.mp among
    have bare := built.isSound.bare composed original
    refine Topology.checkCluster_eq_ok ?_ ?_
    · rw [← Cluster.l2_of_monitored added]
      exact Cluster.two_le_of_l2_withCaches bare
    · intro bypasses
      rw [← Cluster.model_of_monitored added, Cluster.model_withCaches] at bypasses
      exact (bare.withCaches bypasses).monitored added
  · exact isSome_sharedL3_finished ..

theorem obeys_assemble (built : blueprint.IsBuilt) (depth : UInt8) (cachesEnabled : Bool) :
    Obeys (blueprint.conditions depth) (blueprint.assemble depth cachesEnabled) := by
  rw [assemble_eq]
  refine .bind (Topology.obeys_checkDepth depth) fun _ _ => ?_
  refine .check (by rw [List.isEmpty_iff]) fun _ => ?_
  rw [← List.append_nil (List.flatMap _ _)]
  refine .bind ?_ fun clusters monitored => ?_
  · have monitors : Obeys _ ((blueprint.clusters.map
        (·.withCaches (builtLevels depth cachesEnabled))).mapM Cluster.addRequestedMonitors) :=
      .mapM fun cluster _ => cluster.obeys_addRequestedMonitors
    simpa [List.flatMap_map] using monitors
  · rw [built.check_finished (Except.mapM_eq_ok_iff.mp monitored)]
    exact .pure _

end IsBuilt

/-- What is asked of a blueprint whose clusters are composed from requests. -/
theorem conditions_of_addClusters {blueprint next : Blueprint} {requests : List ClusterRequest}
    (empty : blueprint.clusters = []) (added : blueprint.addClusters requests = .ok next)
    (depth : UInt8) :
    next.conditions depth =
      Topology.depthCondition depth :: ⟨requests ≠ [], .noClusters⟩ ::
        ClusterRequest.monitorConditions requests := by
  obtain ⟨composed, clusters, related⟩ := clusters_of_addClusters added
  rw [empty] at clusters related
  obtain rfl : next.clusters = composed := clusters
  have asked : (requests.zipIdx.map fun entry =>
      Cluster.monitorConditions entry.2 entry.1.coreCount entry.1.monitors) =
      next.clusters.map fun cluster =>
        Cluster.monitorConditions cluster.index cluster.cores.length cluster.monitors :=
    related.map_eq_map fun _ _ composed => by
      rw [composed.index_eq, composed.length_cores, composed.monitors_eq]
  have inhabited : next.clusters ≠ [] ↔ requests ≠ [] := by
    have lengths := related.length_eq
    rw [List.length_zipIdx] at lengths
    rw [← List.length_pos_iff, ← List.length_pos_iff, lengths]
  rw [conditions, propext inhabited, List.flatMap_def, ← asked, ← List.flatMap_def]
  rfl

theorem obeys_start (platform : Platform) (memorySize : ByteSize) (memoryMode : MemoryMode)
    (deviceCache : Bool) :
    Obeys (Memory.conditions memorySize.bytes platform.regions)
      (start platform memorySize memoryMode deviceCache) :=
  (Memory.obeys_allocate memorySize.bytes platform.regions).map _

theorem obeys_addClusters (blueprint : Blueprint) (requests : List ClusterRequest) :
    Obeys (requests.flatMap ClusterRequest.conditions) (blueprint.addClusters requests) :=
  .foldlM fun _ request _ => (request.obeys_check.map _).map _

end Blueprint

end Mainboard
