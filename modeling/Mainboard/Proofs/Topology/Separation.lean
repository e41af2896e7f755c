import Mainboard.Proofs.Topology.Numbering
import Mainboard.Proofs.Topology.Ownership

/-!
# Clusters do not interfere

All clusters go through one blueprint and are wired into one interconnect.
What a cluster takes from there is its index, the number of the cores before
it and the interrupt controller of the platform.  So machines whose
configurations agree on these and on the cluster have the same cluster, with
the same links and the same crossbar, whatever the other clusters are.
-/

namespace Mainboard

namespace Blueprint

variable {blueprint next : Blueprint} {requests : List ClusterRequest}

theorem coreCount_of_addClusters (added : blueprint.addClusters requests = .ok next) :
    next.coreCount = blueprint.coreCount + (requests.map (·.coreCount)).sum := by
  induction requests generalizing blueprint with
  | nil =>
      obtain rfl := Except.ok.inj added
      rfl
  | cons request requests ih =>
      rw [addClusters, List.foldlM_cons, Except.bind_eq_ok_iff] at added
      obtain ⟨current, first, others⟩ := added
      obtain ⟨⟨index, after⟩, entry, rfl⟩ := Except.map_eq_ok_iff.mp first
      rw [ih others, coreCount_of_addCluster entry, List.map_cons, List.sum_cons, Nat.add_assoc]

/-- The cluster of a request is composed in the blueprint with the clusters before it, and stays as
the others are added. -/
theorem exists_earlier_of_addClusters (added : blueprint.addClusters requests = .ok next)
    {index : Nat} {request : ClusterRequest} (found : requests[index]? = some request) :
    ∃ earlier settings, blueprint.addClusters (requests.take index) = .ok earlier ∧
      request.check = .ok settings ∧
      next.clusters[blueprint.clusters.length + index]? =
        some (earlier.nextCluster request settings) := by
  induction requests generalizing blueprint index with
  | nil => cases found
  | cons head requests ih =>
      rw [addClusters, List.foldlM_cons, Except.bind_eq_ok_iff] at added
      obtain ⟨current, first, others⟩ := added
      obtain ⟨⟨number, after⟩, entry, rfl⟩ := Except.map_eq_ok_iff.mp first
      cases index with
      | zero =>
          obtain rfl := Option.some.inj found
          obtain ⟨settings, checked, -, grown⟩ := addCluster_eq_ok entry
          obtain ⟨composed, clusters, -⟩ := clusters_of_addClusters others
          refine ⟨blueprint, settings, rfl, checked, ?_⟩
          simp [clusters, grown]
      | succ index =>
          obtain ⟨earlier, settings, before, checked, last⟩ := ih others found
          obtain ⟨_, -, -, grown⟩ := addCluster_eq_ok entry
          refine ⟨earlier, settings, ?_, checked, ?_⟩
          · rw [List.take_succ_cons, addClusters, List.foldlM_cons, first]
            exact before
          · rw [← last, grown, List.length_append, List.length_singleton, Nat.add_assoc,
              Nat.add_comm index]

/-- Composing a cluster reads how many clusters and cores there are, and where the interrupt
controller of the platform is. -/
theorem nextCluster_congr {one other : Blueprint}
    (clusters : one.clusters.length = other.clusters.length)
    (cores : one.coreCount = other.coreCount)
    (controller : one.platform.interruptControllerAddress =
      other.platform.interruptControllerAddress)
    (request : ClusterRequest) (settings : Option OutOfOrderSettings) :
    one.nextCluster request settings = other.nextCluster request settings := by
  have core : one.nextCore request settings = other.nextCore request settings := by
    funext place
    simp only [nextCore, clusters, cores, controller]
  simp only [nextCluster, clusters, core]

end Blueprint

namespace Configuration

/-- What configurations have in common if they have the same cluster at a place, with as many cores
in the clusters before it, on one platform and with caches of one depth. -/
structure AgreesAt (configuration other : Configuration) (index : Nat) : Prop where
  platform : configuration.platform = other.platform
  depth : configuration.depth = other.depth
  cachesEnabled : configuration.cachesEnabled = other.cachesEnabled
  warmup : configuration.run.warmupInstructions = other.run.warmupInstructions
  cluster : configuration.clusters[index]? = other.clusters[index]?
  coresBefore : (configuration.clusters.take index).map (·.cores) =
    (other.clusters.take index).map (·.cores)

variable {configuration other : Configuration} {topology otherTopology : Topology} {index : Nat}

/-- A blueprint that holds what a configuration has before a place. -/
structure Precedes (earlier : Blueprint) (configuration : Configuration) (index : Nat) : Prop where
  clusters : earlier.clusters.length = index
  cores : earlier.coreCount = ((configuration.clusters.take index).map (·.cores)).sum
  platform : earlier.platform = configuration.machinePlatform

/-- The cluster of a machine at a place is finished from the one that is composed there. -/
theorem exists_earlier_of_topology (accepted : configuration.topology = .ok topology)
    {configured : ClusterConfiguration} (found : configuration.clusters[index]? = some configured) :
    ∃ earlier settings cluster, Precedes earlier configuration index ∧
      (configured.request configuration.run.warmupInstructions).check = .ok settings ∧
      ((earlier.nextCluster (configured.request configuration.run.warmupInstructions)
        settings).withCaches (builtLevels configuration.depth
          configuration.cachesEnabled)).addRequestedMonitors = .ok cluster ∧
      topology.clusters[index]? = some cluster := by
  obtain ⟨empty, blueprint, started, filled, assembled⟩ := topology_eq_ok accepted
  obtain ⟨ranges, -, rfl⟩ := Except.map_eq_ok_iff.mp started
  have requested : configuration.clusterRequests[index]? =
      some (configured.request configuration.run.warmupInstructions) := by
    simp [clusterRequests, found]
  obtain ⟨earlier, settings, before, checked, composed⟩ :=
    Blueprint.exists_earlier_of_addClusters filled requested
  have counted := Blueprint.coreCount_of_addClusters before
  obtain ⟨made, clusters, related⟩ := Blueprint.clusters_of_addClusters before
  obtain ⟨_, _, same⟩ := Blueprint.exists_eq_of_addClusters before
  have monitored := List.forall₂_map_left_iff.mp (Blueprint.assemble_eq_ok assembled).1
  obtain ⟨cluster, placed, finished⟩ := monitored.exists_getElem? composed
  have short : index ≤ configuration.clusters.length :=
    (List.getElem?_eq_some_iff.mp found).1.le
  refine ⟨earlier, settings, cluster, ⟨?_, ?_, congrArg Blueprint.platform same⟩, checked,
    finished, ?_⟩
  · rw [clusters, List.nil_append, ← related.length_eq]
    simp [clusterRequests, short]
  · rw [counted, clusterRequests, ← List.map_take, List.map_map]
    exact Nat.zero_add _
  · rwa [List.length_nil, Nat.zero_add] at placed

/-- Configurations that agree at a place have one cluster there. -/
theorem AgreesAt.exists_cluster (agree : configuration.AgreesAt other index)
    (accepted : configuration.topology = .ok topology)
    (also : other.topology = .ok otherTopology) (short : index < configuration.clusters.length) :
    ∃ cluster, topology.clusters[index]? = some cluster ∧
      otherTopology.clusters[index]? = some cluster := by
  have found := List.getElem?_eq_getElem short
  obtain ⟨earlier, settings, cluster, before, checked, finished, placed⟩ :=
    exists_earlier_of_topology accepted found
  obtain ⟨otherEarlier, otherSettings, otherCluster, otherBefore, otherChecked, otherFinished,
    otherPlaced⟩ := exists_earlier_of_topology also (agree.cluster ▸ found)
  rw [← agree.warmup] at otherChecked otherFinished
  rw [← agree.depth, ← agree.cachesEnabled] at otherFinished
  obtain rfl := Except.ok.inj (checked.symm.trans otherChecked)
  have controller : earlier.platform.interruptControllerAddress =
      otherEarlier.platform.interruptControllerAddress := by
    rw [before.platform, otherBefore.platform, machinePlatform, machinePlatform, agree.platform]
  have composed := Blueprint.nextCluster_congr (before.clusters.trans otherBefore.clusters.symm)
    (before.cores.trans (agree.coresBefore ▸ otherBefore.cores.symm)) controller
    (configuration.clusters[index].request configuration.run.warmupInstructions) settings
  rw [composed] at finished
  obtain rfl := Except.ok.inj (finished.symm.trans otherFinished)
  exact ⟨cluster, placed, otherPlaced⟩

theorem AgreesAt.clusterBus_eq (agree : configuration.AgreesAt other index)
    (accepted : configuration.topology = .ok topology)
    (also : other.topology = .ok otherTopology) :
    topology.clusterBus = otherTopology.clusterBus := by
  obtain ⟨_, -, third⟩ := sharedL3_of_topology accepted
  obtain ⟨_, -, otherThird⟩ := sharedL3_of_topology also
  rw [← agree.depth, ← agree.cachesEnabled] at otherThird
  rw [Topology.clusterBus, Topology.clusterBus, third, otherThird]
  split <;> rfl

/-- A cluster, the links from its objects and its crossbar are the same in all machines whose
configurations agree at its place.  Nothing else of the clusters before and after it matters, nor
does the memory. -/
theorem separates_clusters (agree : configuration.AgreesAt other index)
    (accepted : configuration.topology = .ok topology)
    (also : other.topology = .ok otherTopology) (short : index < configuration.clusters.length) :
    ∃ cluster, topology.clusters[index]? = some cluster ∧
      otherTopology.clusters[index]? = some cluster ∧
      topology.interconnect.linksFrom cluster.name =
        otherTopology.interconnect.linksFrom cluster.name ∧
      topology.interconnect.bus? cluster.l2Bus = otherTopology.interconnect.bus? cluster.l2Bus ∧
      ((topology.interconnect.bus? cluster.l2Bus).isSome ↔ cluster.l2.isSome) := by
  obtain ⟨cluster, placed, otherPlaced⟩ := agree.exists_cluster accepted also short
  have composed := isComposed accepted
  have otherComposed := isComposed also
  have member := List.mem_of_getElem? placed
  have otherMember := List.mem_of_getElem? otherPlaced
  have built := composed.isSome_bus?_l2Bus_iff member
  have otherBuilt := otherComposed.isSome_bus?_l2Bus_iff otherMember
  refine ⟨cluster, placed, otherPlaced, ?_, ?_, built⟩
  · rw [composed.linksFrom_name member, otherComposed.linksFrom_name otherMember,
      agree.clusterBus_eq accepted also]
  · by_cases hasL2 : cluster.l2.isSome
    · rw [composed.bus?_l2Bus member hasL2, otherComposed.bus?_l2Bus otherMember hasL2]
    · rw [Option.not_isSome_iff_eq_none.mp (hasL2 ∘ built.mp),
        Option.not_isSome_iff_eq_none.mp (hasL2 ∘ otherBuilt.mp)]

/-- Two detailed cores with monitors, after three cores of some model and before other clusters. -/
def flanked (before : CoreModel) (after : List ClusterConfiguration) (memorySize : ByteSize) :
    Configuration where
  memorySize
  clusters :=
    { cores := 3, model := before } ::
      { cores := 2, model := .outOfOrder, monitorInterrupts := some [23, 24] } :: after

/-- The detailed cores come after atomic ones, and after timed ones with caches in a machine with
more clusters and more memory. -/
theorem separates_clusters_flanked :
    ∃ topology otherTopology cluster,
      (flanked .atomic [] (.gib 1)).topology = .ok topology ∧
      (flanked .hpi [{ model := .fastModel }, { model := .timing }] (.gib 2)).topology =
        .ok otherTopology ∧
      topology.clusters.length = 2 ∧ otherTopology.clusters.length = 4 ∧
      topology.clusters[1]? = some cluster ∧ otherTopology.clusters[1]? = some cluster ∧
      topology.interconnect.linksFrom cluster.name =
        otherTopology.interconnect.linksFrom cluster.name ∧
      (topology.interconnect.bus? cluster.l2Bus).isSome ∧
      topology.interconnect.bus? cluster.l2Bus =
        otherTopology.interconnect.bus? cluster.l2Bus := by
  have composed : ∃ topology otherTopology cluster,
      (flanked .atomic [] (.gib 1)).topology = .ok topology ∧
      (flanked .hpi [{ model := .fastModel }, { model := .timing }] (.gib 2)).topology =
        .ok otherTopology ∧
      topology.clusters.length = 2 ∧ otherTopology.clusters.length = 4 ∧
      topology.clusters[1]? = some cluster ∧ cluster.l2.isSome :=
    ⟨_, _, _, rfl, rfl, rfl, rfl, rfl, rfl⟩
  obtain ⟨topology, otherTopology, cluster, accepted, also, two, four, placed, hasL2⟩ := composed
  have agree : (flanked .atomic [] (.gib 1)).AgreesAt
      (flanked .hpi [{ model := .fastModel }, { model := .timing }] (.gib 2)) 1 :=
    ⟨rfl, rfl, rfl, rfl, rfl, rfl⟩
  obtain ⟨same, found, otherFound, links, bus, built⟩ :=
    separates_clusters agree accepted also (by decide)
  obtain rfl := Option.some.inj (placed.symm.trans found)
  exact ⟨topology, otherTopology, cluster, accepted, also, two, four, found, otherFound, links,
    built.mpr hasL2, bus⟩

end Configuration

end Mainboard
