import Mainboard.Configuration.Machine
import Mainboard.Proofs.Results
import Mainboard.Proofs.Topology.Names

/-!
# What a composed machine is made of

Composition adds clusters one after another, builds their caches, wires them
and attaches monitors.  Whatever it is composed from, a machine that comes out
is wired by `Topology.wire` from its own clusters.  These are numbered in
order, and so are the cores of each.  A cluster that is bridged into the
machine by itself is bare of caches.
-/

namespace Mainboard

theorem CoreModel.requiresCaches_of_isSelfBridged {model : CoreModel}
    (bridged : model.isSelfBridged) : model.requiresCaches = false := by
  cases model <;> first | rfl | cases bridged

namespace Cluster

/-- The cores of a cluster are at the paths of their places. -/
def IsPlaced (cluster : Cluster) : Prop :=
  cluster.cores.map (·.path) = (List.range cluster.cores.length).map (corePath cluster.index)

/-- The index of a cluster is its place, where clusters are numbered in order. -/
theorem index_eq_of_numbered {clusters : List Cluster}
    (numbered : clusters.map (·.index) = List.range clusters.length) {place : Nat}
    {cluster : Cluster} (found : clusters[place]? = some cluster) : cluster.index = place := by
  obtain ⟨inside, rfl⟩ := List.getElem?_eq_some_iff.mp found
  simpa [inside] using congrArg (·[place]?) numbered

/-- A cluster without caches. -/
structure IsBare (cluster : Cluster) : Prop where
  l2 : cluster.l2 = none
  caches : ∀ core ∈ cluster.cores, core.caches = none

theorem IsPlaced.path_of_mem {cluster : Cluster} (placed : cluster.IsPlaced) {core : Core}
    (member : core ∈ cluster.cores) : ∃ place, core.path = corePath cluster.index place := by
  have path : core.path ∈ (List.range cluster.cores.length).map (corePath cluster.index) :=
    placed ▸ List.mem_map_of_mem member
  obtain ⟨place, -, same⟩ := List.mem_map.mp path
  exact ⟨place, same.symm⟩

theorem IsPlaced.of_paths {cluster other : Cluster} (placed : cluster.IsPlaced)
    (index : cluster.index = other.index)
    (paths : cluster.cores.map (·.path) = other.cores.map (·.path)) : other.IsPlaced := by
  have lengths : cluster.cores.length = other.cores.length := by
    simpa using congrArg List.length paths
  rw [IsPlaced, ← paths, ← lengths, ← index]
  exact placed

theorem IsPlaced.nodup_paths {cluster : Cluster} (placed : cluster.IsPlaced) :
    (cluster.cores.map (·.path)).Nodup := by
  rw [placed]
  exact List.nodup_range.map (corePath_injective _)

section Caches

variable {cluster : Cluster} {levels : Nat}

/-- Building caches changes the caches of a cluster and what was ignored for them, and of each
core the caches alone. -/
theorem exists_withCaches_eq (cluster : Cluster) (levels : Nat) :
    ∃ cores l2 ignored, cluster.withCaches levels = { cluster with cores, l2, ignored } ∧
      ∀ {α : Type} (view : Core → α),
        (∀ core caches, view { core with caches } = view core) →
        cluster.cores.map view = cores.map view := by
  obtain ⟨cores, ignored, first, same⟩ : ∃ cores ignored,
      (if 1 ≤ levels then cluster.withPrivateCaches else cluster) =
        { cluster with cores, ignored } ∧
      ∀ {α : Type} (view : Core → α),
        (∀ core caches, view { core with caches } = view core) →
        cluster.cores.map view = cores.map view := by
    split
    · refine ⟨_, _, rfl, fun view blind => ?_⟩
      simp [blind]
    · exact ⟨cluster.cores, cluster.ignored, rfl, fun _ _ => rfl⟩
  rw [withCaches, first]
  split
  · rw [withL2]
    split
    · exact ⟨cores, cluster.l2, ignored, rfl, same⟩
    · exact ⟨cores, _, _, rfl, same⟩
  · exact ⟨cores, cluster.l2, ignored, rfl, same⟩

@[simp]
theorem index_withCaches (cluster : Cluster) (levels : Nat) :
    (cluster.withCaches levels).index = cluster.index := by
  obtain ⟨cores, l2, ignored, built, -⟩ := exists_withCaches_eq cluster levels
  rw [built]

@[simp]
theorem model_withCaches (cluster : Cluster) (levels : Nat) :
    (cluster.withCaches levels).model = cluster.model := by
  obtain ⟨cores, l2, ignored, built, -⟩ := exists_withCaches_eq cluster levels
  rw [built]

@[simp]
theorem clock_withCaches (cluster : Cluster) (levels : Nat) :
    (cluster.withCaches levels).clock = cluster.clock := by
  obtain ⟨cores, l2, ignored, built, -⟩ := exists_withCaches_eq cluster levels
  rw [built]

@[simp]
theorem monitors_withCaches (cluster : Cluster) (levels : Nat) :
    (cluster.withCaches levels).monitors = cluster.monitors := by
  obtain ⟨cores, l2, ignored, built, -⟩ := exists_withCaches_eq cluster levels
  rw [built]

@[simp]
theorem length_cores_withCaches (cluster : Cluster) (levels : Nat) :
    (cluster.withCaches levels).cores.length = cluster.cores.length := by
  obtain ⟨cores, l2, ignored, built, same⟩ := exists_withCaches_eq cluster levels
  rw [built]
  simpa using congrArg List.length (same (·.path) fun _ _ => rfl).symm

theorem IsPlaced.withCaches (placed : cluster.IsPlaced) : (cluster.withCaches levels).IsPlaced := by
  obtain ⟨cores, l2, ignored, built, same⟩ := exists_withCaches_eq cluster levels
  rw [built]
  exact placed.of_paths rfl (same (·.path) fun _ _ => rfl)

/-- No private caches are built for a model that bypasses the hierarchy. -/
theorem IsBare.withPrivateCaches (bypasses : cluster.model.requiresCaches = false)
    (bare : cluster.IsBare) : cluster.withPrivateCaches.IsBare where
  l2 := bare.l2
  caches := by
    intro core member
    obtain ⟨origin, -, rfl⟩ := List.mem_map.mp member
    simp [PrivateCaches.build?, bypasses]

theorem withL2_of_bypasses (bypasses : cluster.model.requiresCaches = false) :
    cluster.withL2 = cluster := by
  rw [withL2, Cache.buildL2?, bypasses]
  rfl

theorem IsBare.withCaches (bypasses : cluster.model.requiresCaches = false)
    (bare : cluster.IsBare) : (cluster.withCaches levels).IsBare := by
  have first : IsBare (if 1 ≤ levels then cluster.withPrivateCaches else cluster) := by
    split
    · exact bare.withPrivateCaches bypasses
    · exact bare
  have model : (if 1 ≤ levels then cluster.withPrivateCaches else cluster).model =
      cluster.model := by
    split <;> rfl
  rw [Cluster.withCaches]
  split
  · rwa [withL2_of_bypasses (model ▸ bypasses)]
  · exact first

/-- Only from two levels on a second level is built. -/
theorem two_le_of_l2_withCaches (bare : cluster.IsBare)
    (present : (cluster.withCaches levels).l2.isSome) : 2 ≤ levels := by
  by_contra few
  have absent : (cluster.withCaches levels).l2 = none := by
    rw [withCaches, if_neg few]
    split <;> exact bare.l2
  rw [absent] at present
  cases present

end Caches

section Monitors

/-- Monitors change the cores of a cluster, and of each core the monitor alone. -/
theorem addMonitors_eq_ok {cluster done : Cluster} {interrupts : List UInt32}
    {events : List String} (added : cluster.addMonitors interrupts events = .ok done) :
    ∃ cores, done = { cluster with cores } ∧
      ∀ {α : Type} (view : Core → α),
        (∀ core hasL2 interrupt events,
          view (core.withMonitor hasL2 interrupt events) = view core) →
        cluster.cores.map view = cores.map view := by
  rw [addMonitors] at added
  split at added
  next counted =>
    obtain rfl := Except.ok.inj added
    refine ⟨_, rfl, fun view blind => ?_⟩
    apply List.ext_getElem
    · simp [counted]
    · simp [blind]
  next => cases added

variable {cluster done : Cluster} (added : cluster.addRequestedMonitors = .ok done)
include added

/-- Monitors that are requested change the cores as any do, and none are changed without. -/
theorem addRequestedMonitors_eq_ok :
    ∃ cores, done = { cluster with cores } ∧
      ∀ {α : Type} (view : Core → α),
        (∀ core hasL2 interrupt events,
          view (core.withMonitor hasL2 interrupt events) = view core) →
        cluster.cores.map view = cores.map view := by
  rw [addRequestedMonitors] at added
  split at added
  next =>
    obtain rfl := Except.ok.inj added
    exact ⟨cluster.cores, rfl, fun _ _ => rfl⟩
  next request => exact addMonitors_eq_ok added

theorem index_of_monitored : cluster.index = done.index := by
  obtain ⟨cores, rfl, -⟩ := addRequestedMonitors_eq_ok added
  rfl

theorem model_of_monitored : cluster.model = done.model := by
  obtain ⟨cores, rfl, -⟩ := addRequestedMonitors_eq_ok added
  rfl

theorem clock_of_monitored : cluster.clock = done.clock := by
  obtain ⟨cores, rfl, -⟩ := addRequestedMonitors_eq_ok added
  rfl

theorem l2_of_monitored : cluster.l2 = done.l2 := by
  obtain ⟨cores, rfl, -⟩ := addRequestedMonitors_eq_ok added
  rfl

theorem ignored_of_monitored : cluster.ignored = done.ignored := by
  obtain ⟨cores, rfl, -⟩ := addRequestedMonitors_eq_ok added
  rfl

theorem IsPlaced.monitored (placed : cluster.IsPlaced) : done.IsPlaced := by
  obtain ⟨cores, rfl, same⟩ := addRequestedMonitors_eq_ok added
  exact placed.of_paths rfl (same (·.path) fun _ _ _ _ => rfl)

theorem IsBare.monitored (bare : cluster.IsBare) : done.IsBare := by
  obtain ⟨cores, rfl, same⟩ := addRequestedMonitors_eq_ok added
  refine ⟨bare.l2, fun core member => ?_⟩
  have caches : core.caches ∈ cluster.cores.map (·.caches) := by
    rw [same _ fun _ _ _ _ => rfl]
    exact List.mem_map_of_mem member
  obtain ⟨origin, original, equal⟩ := List.mem_map.mp caches
  rw [← equal, bare.caches origin original]

/-- What is read off the cores without their monitors stays. -/
theorem flatMap_cores_of_monitored {α : Type} (view : Core → List α)
    (blind : ∀ core hasL2 interrupt events,
      view (core.withMonitor hasL2 interrupt events) = view core) :
    cluster.cores.flatMap view = done.cores.flatMap view := by
  obtain ⟨cores, rfl, same⟩ := addRequestedMonitors_eq_ok added
  rw [List.flatMap_def, List.flatMap_def, same view blind]

theorem privateLinks_of_monitored : cluster.privateLinks = done.privateLinks :=
  flatMap_cores_of_monitored added _ fun _ _ _ _ => rfl

theorem l2Buses_of_monitored : cluster.l2Buses = done.l2Buses := by
  obtain ⟨cores, rfl, -⟩ := addRequestedMonitors_eq_ok added
  rfl

theorem l2Links_of_monitored : cluster.l2Links = done.l2Links := by
  have outward := flatMap_cores_of_monitored added (·.outwardLinks cluster.l2Bus)
    fun _ _ _ _ => rfl
  obtain ⟨cores, rfl, -⟩ := addRequestedMonitors_eq_ok added
  rw [l2Links, outward]
  rfl

theorem memoryLinks_of_monitored (bus : String) :
    cluster.memoryLinks bus = done.memoryLinks bus := by
  have outward := flatMap_cores_of_monitored added (·.outwardLinks bus) fun _ _ _ _ => rfl
  obtain ⟨cores, rfl, -⟩ := addRequestedMonitors_eq_ok added
  rw [memoryLinks, outward]
  rfl

end Monitors

end Cluster

namespace Blueprint

variable {blueprint next : Blueprint}

/-- A blueprint whose clusters are numbered in order, and bare. -/
structure IsSound (blueprint : Blueprint) : Prop where
  numbered : blueprint.clusters.map (·.index) = List.range blueprint.clusters.length
  placed : ∀ cluster ∈ blueprint.clusters, cluster.IsPlaced
  bare : ∀ cluster ∈ blueprint.clusters, cluster.IsBare
  unwired : ∃ ranges cache, blueprint.interconnect = .base ranges cache

theorem addCluster_eq_ok {request : ClusterRequest} {index : Nat}
    (added : blueprint.addCluster request = .ok (index, next)) :
    ∃ settings, request.check = .ok settings ∧ index = blueprint.clusters.length ∧
      next = { blueprint with
        clusters := blueprint.clusters ++ [blueprint.nextCluster request settings]
        coreCount :=
          blueprint.coreCount + (blueprint.nextCluster request settings).cores.length } := by
  obtain ⟨settings, checked, same⟩ := Except.map_eq_ok_iff.mp added
  obtain ⟨rfl, rfl⟩ := Prod.mk.inj same
  exact ⟨settings, checked, rfl, rfl⟩

/-- What adding a cluster preserves, adding clusters preserves. -/
theorem addClusters_induction {holds : Blueprint → Prop} {requests : List ClusterRequest}
    (start : holds blueprint)
    (step : ∀ {current after request index}, current.addCluster request = .ok (index, after) →
      holds current → holds after)
    (added : blueprint.addClusters requests = .ok next) : holds next := by
  induction requests generalizing blueprint with
  | nil =>
      obtain rfl := Except.ok.inj added
      exact start
  | cons request requests ih =>
      rw [addClusters, List.foldlM_cons, Except.bind_eq_ok_iff] at added
      obtain ⟨current, first, others⟩ := added
      obtain ⟨result, entry, rfl⟩ := Except.map_eq_ok_iff.mp first
      exact ih (step entry start) others

/-- Adding clusters changes nothing but the clusters and the count of their cores. -/
theorem exists_eq_of_addClusters {requests : List ClusterRequest}
    (added : blueprint.addClusters requests = .ok next) :
    ∃ clusters coreCount, next = { blueprint with clusters, coreCount } := by
  refine @addClusters_induction blueprint next
    (fun current => ∃ clusters coreCount, current = { blueprint with clusters, coreCount })
    requests ⟨_, _, rfl⟩ ?_ added
  rintro current after request index entry ⟨clusters, coreCount, rfl⟩
  obtain ⟨settings, -, -, rfl⟩ := addCluster_eq_ok entry
  exact ⟨_, _, rfl⟩

theorem isSound_start {platform : Platform} {memorySize : ByteSize} {memoryMode : MemoryMode}
    {deviceCache : Bool} (started : start platform memorySize memoryMode deviceCache = .ok next) :
    next.IsSound := by
  obtain ⟨ranges, -, rfl⟩ := Except.map_eq_ok_iff.mp started
  exact ⟨rfl, by simp, by simp, _, _, rfl⟩

theorem IsSound.addCluster {request : ClusterRequest} {index : Nat}
    (added : blueprint.addCluster request = .ok (index, next)) (sound : blueprint.IsSound) :
    next.IsSound := by
  obtain ⟨settings, -, -, rfl⟩ := addCluster_eq_ok added
  refine ⟨?_, ?_, ?_, sound.unwired⟩
  · simp [sound.numbered, nextCluster, List.range_succ]
  · refine List.forall_mem_append.mpr ⟨sound.placed, ?_⟩
    simp [Cluster.IsPlaced, nextCluster, nextCore]
  · refine List.forall_mem_append.mpr ⟨sound.bare, ?_⟩
    rintro cluster last
    obtain rfl := List.mem_singleton.mp last
    exact ⟨rfl, by simp [nextCluster, nextCore]⟩

theorem IsSound.addClusters {requests : List ClusterRequest} (sound : blueprint.IsSound)
    (added : blueprint.addClusters requests = .ok next) : next.IsSound :=
  addClusters_induction sound (fun entry sound => sound.addCluster entry) added

end Blueprint

namespace Topology

/-- What composition makes of every machine. -/
structure IsComposed (topology : Topology) : Prop where
  wired : ∃ ranges cache, topology.interconnect =
    wire (.base ranges cache) topology.clusters topology.sharedL3.isSome
  numbered : topology.clusters.map (·.index) = List.range topology.clusters.length
  placed : ∀ cluster ∈ topology.clusters, cluster.IsPlaced
  bare : ∀ cluster ∈ topology.clusters, cluster.model.isSelfBridged → cluster.IsBare

/-- Wiring is blind to monitors. -/
theorem wire_of_monitored {interconnect : Interconnect} {cached monitored : List Cluster}
    {hasL3 : Bool} (added : List.Forall₂
      (fun cluster done => cluster.addRequestedMonitors = .ok done) cached monitored) :
    wire interconnect cached hasL3 = wire interconnect monitored hasL3 := by
  have views : ∀ {α : Type} (view : Cluster → List α),
      (∀ cluster done, cluster.addRequestedMonitors = .ok done → view cluster = view done) →
      cached.flatMap view = monitored.flatMap view := by
    intro α view blind
    rw [List.flatMap_def, List.flatMap_def, added.map_eq_map blind]
  rw [wire, wire, views _ fun _ _ => Cluster.l2Buses_of_monitored,
    views _ fun _ _ => Cluster.privateLinks_of_monitored,
    views _ fun _ _ => Cluster.l2Links_of_monitored,
    views _ fun _ _ added => Cluster.memoryLinks_of_monitored added _]

end Topology

namespace Blueprint

/-- The machine that assembly makes of clusters with their caches and monitors. -/
def finished (blueprint : Blueprint) (depth : UInt8) (cachesEnabled : Bool)
    (clusters : List Cluster) : Topology :=
  let levels := builtLevels depth cachesEnabled
  let hasL3 : Bool := 3 ≤ levels
  { platform := blueprint.platform
    memoryMode := blueprint.memoryMode
    requestedMemory := blueprint.memorySize
    memoryRanges := blueprint.memoryRanges
    clusters
    sharedL3 :=
      if hasL3 then some (Cache.buildL3 (Topology.fastestClock blueprint.clusters)) else none
    depth
    cachesEnabled
    interconnect := Topology.wire blueprint.interconnect
      (blueprint.clusters.map (·.withCaches levels)) hasL3 }

/-- Assembly makes the machine once its conditions are checked, and then checks the machine. -/
theorem assemble_eq (blueprint : Blueprint) (depth : UInt8) (cachesEnabled : Bool) :
    blueprint.assemble depth cachesEnabled = (do
      Topology.checkDepth depth
      if blueprint.clusters.isEmpty then throw .noClusters
      let clusters ← (blueprint.clusters.map
        (·.withCaches (builtLevels depth cachesEnabled))).mapM Cluster.addRequestedMonitors
      (blueprint.finished depth cachesEnabled clusters).check
      return blueprint.finished depth cachesEnabled clusters) :=
  rfl

/-- A machine that is assembled is made of the clusters with their caches and monitors. -/
theorem finished_of_assemble {blueprint : Blueprint} {depth : UInt8} {cachesEnabled : Bool}
    {topology : Topology} (assembled : blueprint.assemble depth cachesEnabled = .ok topology) :
    ∃ clusters, List.Forall₂ (fun cluster done => cluster.addRequestedMonitors = .ok done)
        (blueprint.clusters.map (·.withCaches (builtLevels depth cachesEnabled))) clusters ∧
      topology = blueprint.finished depth cachesEnabled clusters := by
  rw [assemble_eq] at assembled
  obtain ⟨_, -, assembled⟩ := Except.bind_eq_ok_iff.mp assembled
  dsimp only at assembled
  split at assembled
  · obtain ⟨_, impossible, -⟩ := Except.bind_eq_ok_iff.mp assembled
    cases impossible
  obtain ⟨clusters, monitored, assembled⟩ := Except.bind_eq_ok_iff.mp assembled
  obtain ⟨_, -, assembled⟩ := Except.bind_eq_ok_iff.mp assembled
  obtain rfl := Except.ok.inj assembled
  exact ⟨clusters, Except.mapM_eq_ok_iff.mp monitored, rfl⟩

/-- A blueprint that is assembled has its caches built, and then its monitors attached. -/
theorem assemble_eq_ok {blueprint : Blueprint} {depth : UInt8} {cachesEnabled : Bool}
    {topology : Topology} (assembled : blueprint.assemble depth cachesEnabled = .ok topology) :
    List.Forall₂ (fun cluster done => cluster.addRequestedMonitors = .ok done)
        (blueprint.clusters.map (·.withCaches (builtLevels depth cachesEnabled)))
        topology.clusters ∧
      topology.interconnect = Topology.wire blueprint.interconnect
        (blueprint.clusters.map (·.withCaches (builtLevels depth cachesEnabled)))
        topology.sharedL3.isSome := by
  obtain ⟨clusters, monitored, rfl⟩ := finished_of_assemble assembled
  refine ⟨monitored, ?_⟩
  by_cases deep : 3 ≤ builtLevels depth cachesEnabled <;> simp [finished, deep]

end Blueprint

/-- The machine of a configuration is assembled from a blueprint with its clusters. -/
theorem Configuration.topology_eq_ok {configuration : Configuration} {topology : Topology}
    (composed : configuration.topology = .ok topology) :
    ∃ empty blueprint, configuration.startBlueprint = .ok empty ∧
      empty.addClusters configuration.clusterRequests = .ok blueprint ∧
      blueprint.assemble configuration.depth configuration.cachesEnabled = .ok topology := by
  obtain ⟨_, -, composed⟩ := Except.bind_eq_ok_iff.mp composed
  obtain ⟨empty, started, composed⟩ := Except.bind_eq_ok_iff.mp composed
  obtain ⟨blueprint, filled, assembled⟩ := Except.bind_eq_ok_iff.mp composed
  exact ⟨empty, blueprint, started, filled, assembled⟩

/-- The machine of a configuration is composed. -/
theorem Configuration.isComposed {configuration : Configuration} {topology : Topology}
    (composed : configuration.topology = .ok topology) : topology.IsComposed := by
  obtain ⟨empty, blueprint, started, filled, assembled⟩ := topology_eq_ok composed
  have sound := (Blueprint.isSound_start started).addClusters filled
  obtain ⟨monitored, wired⟩ := Blueprint.assemble_eq_ok assembled
  refine ⟨?_, ?_, ?_, ?_⟩
  · obtain ⟨ranges, cache, unwired⟩ := sound.unwired
    exact ⟨ranges, cache, by rw [wired, Topology.wire_of_monitored monitored, unwired]⟩
  · have indices := monitored.map_eq_map fun _ _ => Cluster.index_of_monitored
    rw [← indices, ← monitored.length_eq, List.length_map, ← sound.numbered]
    simp
  · intro cluster member
    obtain ⟨cached, among, added⟩ := monitored.exists_of_mem member
    obtain ⟨origin, original, rfl⟩ := List.mem_map.mp among
    exact (sound.placed origin original).withCaches.monitored added
  · intro cluster member bridged
    obtain ⟨cached, among, added⟩ := monitored.exists_of_mem member
    obtain ⟨origin, original, rfl⟩ := List.mem_map.mp among
    rw [← Cluster.model_of_monitored added, Cluster.model_withCaches] at bridged
    exact ((sound.bare origin original).withCaches
      (CoreModel.requiresCaches_of_isSelfBridged bridged)).monitored added

end Mainboard
