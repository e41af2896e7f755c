import Mainboard.Proofs.Topology.Composition

/-!
# Clusters and their requests

The clusters of a machine are composed from its requests, one from each and in
their order.  What a request says about a cluster is found again in the finished
machine, where caches are built and monitors attached.
-/

namespace Mainboard

namespace Cluster

/-- A cluster as it is composed from a request, with some clusters before it. -/
def IsComposedFrom (cluster : Cluster) (request : ClusterRequest) (index : Nat) : Prop :=
  ∃ earlier settings, earlier.clusters.length = index ∧ request.check = .ok settings ∧
    cluster = Blueprint.nextCluster earlier request settings

/-- A cluster as it is in the machine, with its caches and its monitors. -/
def IsFinishedFrom (cluster : Cluster) (request : ClusterRequest) (index levels : Nat) : Prop :=
  ∃ composed : Cluster, composed.IsComposedFrom request index ∧
    (composed.withCaches levels).addRequestedMonitors = .ok cluster

namespace IsComposedFrom

variable {cluster : Cluster} {request : ClusterRequest} {index : Nat}
variable (composed : cluster.IsComposedFrom request index)
include composed

theorem index_eq : cluster.index = index := by
  obtain ⟨earlier, settings, rfl, -, rfl⟩ := composed
  rfl

theorem model_eq : cluster.model = request.model := by
  obtain ⟨earlier, settings, -, -, rfl⟩ := composed
  rfl

theorem clock_eq : cluster.clock = request.clock := by
  obtain ⟨earlier, settings, -, -, rfl⟩ := composed
  rfl

theorem monitors_eq : cluster.monitors = request.monitors := by
  obtain ⟨earlier, settings, -, -, rfl⟩ := composed
  rfl

theorem length_cores : cluster.cores.length = request.coreCount := by
  obtain ⟨earlier, settings, -, -, rfl⟩ := composed
  simp [Blueprint.nextCluster]

/-- All cores have the settings that the request was checked for. -/
theorem exists_settings : ∃ settings, request.check = .ok settings ∧
    ∀ core ∈ cluster.cores, core.settings = settings := by
  obtain ⟨earlier, settings, -, checked, rfl⟩ := composed
  refine ⟨settings, checked, fun core member => ?_⟩
  obtain ⟨place, -, rfl⟩ := List.mem_map.mp member
  rfl

end IsComposedFrom

namespace IsFinishedFrom

variable {cluster : Cluster} {request : ClusterRequest} {index levels : Nat}
variable (finished : cluster.IsFinishedFrom request index levels)
include finished

theorem model_eq : cluster.model = request.model := by
  obtain ⟨composed, made, added⟩ := finished
  rw [← model_of_monitored added, model_withCaches, made.model_eq]

theorem clock_eq : cluster.clock = request.clock := by
  obtain ⟨composed, made, added⟩ := finished
  rw [← clock_of_monitored added, clock_withCaches, made.clock_eq]

theorem index_eq : cluster.index = index := by
  obtain ⟨composed, made, added⟩ := finished
  rw [← index_of_monitored added, index_withCaches, made.index_eq]

/-- Caches and monitors leave the settings of the cores as they are. -/
theorem exists_settings : ∃ settings, request.check = .ok settings ∧
    ∀ core ∈ cluster.cores, core.settings = settings := by
  obtain ⟨composed, made, added⟩ := finished
  obtain ⟨settings, checked, all⟩ := made.exists_settings
  obtain ⟨cached, l2, ignored, built, withCaches⟩ := exists_withCaches_eq composed levels
  obtain ⟨cores, rfl, withMonitors⟩ := addRequestedMonitors_eq_ok added
  refine ⟨settings, checked, fun core member => ?_⟩
  have among : core.settings ∈ composed.cores.map (·.settings) := by
    have same := withMonitors (·.settings) fun _ _ _ _ => rfl
    rw [built] at same
    rw [withCaches (·.settings) fun _ _ => rfl, same]
    exact List.mem_map_of_mem member
  obtain ⟨origin, original, equal⟩ := List.mem_map.mp among
  rw [← equal, all origin original]

end IsFinishedFrom

end Cluster

/-- Adding clusters composes one from each request, after those that are there. -/
theorem Blueprint.clusters_of_addClusters {blueprint next : Blueprint}
    {requests : List ClusterRequest} (added : blueprint.addClusters requests = .ok next) :
    ∃ composed, next.clusters = blueprint.clusters ++ composed ∧
      List.Forall₂ (fun entry cluster => Cluster.IsComposedFrom cluster entry.1 entry.2)
        (requests.zipIdx blueprint.clusters.length) composed := by
  induction requests generalizing blueprint with
  | nil =>
      obtain rfl := Except.ok.inj added
      exact ⟨[], (List.append_nil _).symm, .nil⟩
  | cons request requests ih =>
      rw [addClusters, List.foldlM_cons, Except.bind_eq_ok_iff] at added
      obtain ⟨current, first, others⟩ := added
      obtain ⟨⟨index, after⟩, entry, rfl⟩ := Except.map_eq_ok_iff.mp first
      obtain ⟨settings, checked, -, rfl⟩ := addCluster_eq_ok entry
      obtain ⟨composed, clusters, related⟩ := ih others
      refine ⟨blueprint.nextCluster request settings :: composed, ?_, ?_⟩
      · rw [clusters, List.append_assoc]
        rfl
      · rw [List.zipIdx_cons]
        refine .cons ⟨blueprint, settings, rfl, checked, rfl⟩ ?_
        simpa using related

/-- The clusters of a machine are finished from the requests of its configuration. -/
theorem Configuration.clusters_of_topology {configuration : Configuration} {topology : Topology}
    (accepted : configuration.topology = .ok topology) :
    List.Forall₂
      (fun entry cluster => Cluster.IsFinishedFrom cluster entry.1 entry.2
        (builtLevels configuration.depth configuration.cachesEnabled))
      configuration.clusterRequests.zipIdx topology.clusters := by
  obtain ⟨empty, blueprint, started, filled, assembled⟩ := topology_eq_ok accepted
  obtain ⟨ranges, -, rfl⟩ := Except.map_eq_ok_iff.mp started
  obtain ⟨composed, clusters, related⟩ := Blueprint.clusters_of_addClusters filled
  obtain rfl : blueprint.clusters = composed := clusters
  have monitored := List.forall₂_map_left_iff.mp (Blueprint.assemble_eq_ok assembled).1
  exact related.through monitored

/-- The clusters of a machine are those of its configuration, each finished from its request. -/
theorem Configuration.configured_clusters_of_topology {configuration : Configuration}
    {topology : Topology} (accepted : configuration.topology = .ok topology) :
    List.Forall₂
      (fun configured cluster => ∃ index, Cluster.IsFinishedFrom cluster
        (configured.request configuration.run.warmupInstructions) index
        (builtLevels configuration.depth configuration.cachesEnabled))
      configuration.clusters topology.clusters := by
  have related : List.Forall₂
      (fun request cluster => ∃ index, Cluster.IsFinishedFrom cluster request index
        (builtLevels configuration.depth configuration.cachesEnabled))
      configuration.clusterRequests topology.clusters := by
    rw [← List.zipIdx_map_fst 0 configuration.clusterRequests, List.forall₂_map_left_iff]
    exact (clusters_of_topology accepted).imp fun entry _ finished => ⟨entry.2, finished⟩
  exact List.forall₂_map_left_iff.mp related

/-- The cluster of the machine that is configured at a place. -/
theorem Configuration.finished_of_getElem? {configuration : Configuration} {topology : Topology}
    (accepted : configuration.topology = .ok topology) {index : Nat}
    {configured : ClusterConfiguration} (found : configuration.clusters[index]? = some configured) :
    ∃ cluster, topology.clusters[index]? = some cluster ∧
      cluster.IsFinishedFrom (configured.request configuration.run.warmupInstructions) index
        (builtLevels configuration.depth configuration.cachesEnabled) := by
  have listed : configuration.clusterRequests.zipIdx[index]? =
      some (configured.request configuration.run.warmupInstructions, index) := by
    simp [clusterRequests, found]
  exact (clusters_of_topology accepted).exists_getElem? listed

end Mainboard
