import Mainboard.Proofs.Topology.Ends

/-!
# Composed machines are well formed

No requesting end of a composed machine is wired twice, links join ends of
objects that the machine has, and no two buses or caches have one name.  So
every cache is wired once on either side.
-/

namespace Mainboard

open Interconnect

namespace Cluster

theorem firstChar?_of_inside {cluster : Cluster} {name : String}
    (inside : Inside cluster.name name) : firstChar? name = some 'c' := by
  obtain ⟨rest, rfl⟩ := inside
  exact firstChar?_append _ (firstChar?_append _ (firstChar?_append _ rfl))

theorem IsPlaced.inside_of_mem_cachePaths {cluster : Cluster} (placed : cluster.IsPlaced)
    {path : String} (among : path ∈ cluster.cachePaths) : Inside cluster.name path := by
  rw [cachePaths_eq] at among
  rcases List.mem_append.mp among with own | second
  · obtain ⟨core, member, cached⟩ := List.mem_flatMap.mp own
    exact (placed.inside member).trans (core.inside_of_mem_cachePaths cached)
  · split at second
    · exact List.mem_singleton.mp second ▸ cluster.inside_l2Path
    · cases second

theorem mem_cachePaths_of_mem {cluster : Cluster} {core : Core} (member : core ∈ cluster.cores)
    {path : String} (cached : path ∈ core.cachePaths) : path ∈ cluster.cachePaths := by
  rw [cachePaths_eq]
  exact List.mem_append_left _ (List.mem_flatMap.mpr ⟨core, member, cached⟩)

theorem l2Path_mem_cachePaths {cluster : Cluster} (hasL2 : cluster.l2.isSome) :
    cluster.l2Path ∈ cluster.cachePaths := by
  rw [cachePaths_eq, if_pos hasL2]
  exact List.mem_append_right _ (List.mem_singleton_self _)

/-- Every cache of a wired cluster has a link out of its far side. -/
theorem mem_sources_of_mem_cachePaths {cluster : Cluster} {bus path : String}
    (wired : cluster.model.isSelfBridged = false) (among : path ∈ cluster.cachePaths) :
    path ++ ".mem_side" ∈ (cluster.links bus).map (·.source) := by
  rw [((links_perm wired).map _).mem_iff, List.map_append, List.map_flatMap]
  rw [cachePaths_eq] at among
  rcases List.mem_append.mp among with own | second
  · obtain ⟨core, member, cached⟩ := List.mem_flatMap.mp own
    refine List.mem_append_left _ (List.mem_flatMap.mpr ⟨core, member, ?_⟩)
    rw [(core.sources_perm _).mem_iff]
    exact List.mem_append_left _ (List.mem_map_of_mem cached)
  · split at second
    next hasL2 =>
      obtain rfl := List.mem_singleton.mp second
      simp [sharedLinks, hasL2]
    next => cases second

end Cluster

namespace Topology

variable {topology : Topology}

/-- The paths of the caches that are listed. -/
def cachePaths (topology : Topology) : List String := topology.cacheInstances.map (·.1)

theorem cachePaths_eq : topology.cachePaths = topology.clusters.flatMap Cluster.cachePaths ++
    if topology.sharedL3.isSome then [l3Path] else [] := by
  rw [cachePaths, cacheInstances, List.map_append, List.map_flatMap]
  cases topology.sharedL3 <;> rfl

theorem mem_cachePaths_of_mem {cluster : Cluster} (member : cluster ∈ topology.clusters)
    {path : String} (cached : path ∈ cluster.cachePaths) : path ∈ topology.cachePaths := by
  rw [cachePaths_eq]
  exact List.mem_append_left _ (List.mem_flatMap.mpr ⟨cluster, member, cached⟩)

/-- The bus that clusters face memory at. -/
def clusterBus (topology : Topology) : String := sharedBus topology.sharedL3.isSome

/-- The requesting ends of the objects of a machine. -/
inductive Requests (topology : Topology) : String → Prop
  | bus {bus : Bus} (member : bus ∈ topology.interconnect.buses) :
      Requests topology (requestingSide bus.name)
  | bridge : Requests topology (topology.interconnect.deviceBridge.name ++ ".mem_side_port")
  | devices : Requests topology (topology.interconnect.devicePath.name ++ "." ++
      topology.interconnect.devicePath.memorySide)
  | core {core : Core} (member : core ∈ topology.cores) (stream : Stream) :
      Requests topology (core.outlet stream)
  | cache {path : String} (member : path ∈ topology.cachePaths) :
      Requests topology (path ++ ".mem_side")

/-- The responding ends of the objects of a machine. -/
inductive Responds (topology : Topology) : String → Prop
  | bus {bus : Bus} (member : bus ∈ topology.interconnect.buses) :
      Responds topology (respondingSide bus.name)
  | bridge : Responds topology (topology.interconnect.deviceBridge.name ++ ".cpu_side_port")
  | devices : Responds topology (topology.interconnect.devicePath.name ++ "." ++
      topology.interconnect.devicePath.deviceSide)
  | cache {path : String} (member : path ∈ topology.cachePaths) :
      Responds topology (path ++ ".cpu_side")

/-- The links of a machine without clusters. -/
def startLinks (deviceCache hasL3 : Bool) : List Link :=
  baseLinks (.ofCache? [] (if deviceCache then some .device else none)) ++ l3Links hasL3

theorem baseLinks_ofCache? (ranges : List AddressRange) (cache : Option Cache) :
    baseLinks (.ofCache? ranges cache) =
      baseLinks (.ofCache? [] (if cache.isSome then some .device else none)) := by
  cases cache <;> rfl

theorem nodup_startLinks :
    ∀ deviceCache hasL3, ((startLinks deviceCache hasL3).map (·.source)).Nodup := by
  decide

/-- The ends of the first links are not those of a cluster. -/
theorem firstChar?_startLinks : ∀ deviceCache hasL3, ∀ link ∈ startLinks deviceCache hasL3,
    firstChar? link.source ≠ some 'c' ∧ firstChar? link.target ≠ some 'c' := by
  decide

theorem targets_into_caches_startLinks : ∀ deviceCache hasL3,
    ((startLinks deviceCache hasL3).filter Link.isIntoCache).map (·.target) =
      (if deviceCache then ["iocache"] else []).map (· ++ ".cpu_side") ++
        (if hasL3 then [l3Path] else []).map (· ++ ".cpu_side") := by
  decide

/-- Wiring, cluster by cluster. -/
theorem links_wire_perm (interconnect : Interconnect) (clusters : List Cluster) (hasL3 : Bool) :
    (wire interconnect clusters hasL3).links.Perm
      (interconnect.links ++ l3Links hasL3 ++
        clusters.flatMap (·.links (sharedBus hasL3))) := by
  have first := List.flatMap_append_perm clusters Cluster.privateLinks Cluster.l2Links
  have second := List.flatMap_append_perm clusters
    (fun cluster => cluster.privateLinks ++ cluster.l2Links) (·.memoryLinks (sharedBus hasL3))
  rw [List.perm_iff_count]
  intro link
  have firstCount := first.count_eq link
  have secondCount := second.count_eq link
  simp only [wire, addLinks, links_addBuses, Cluster.links, List.count_append]
    at firstCount secondCount ⊢
  omega

namespace IsComposed

variable (composed : topology.IsComposed)
include composed

/-- The links in the order of the wiring. -/
theorem links_eq : topology.interconnect.links =
    baseLinks topology.interconnect.devicePath ++
      (topology.clusters.flatMap Cluster.privateLinks ++
        topology.clusters.flatMap Cluster.l2Links ++ l3Links topology.sharedL3.isSome ++
        topology.clusters.flatMap (·.memoryLinks topology.clusterBus)) := by
  obtain ⟨ranges, cache, wired⟩ := composed.wired
  rw [wired]
  rfl

/-- The links are those of the start and the third level, and the links of the clusters. -/
theorem links_perm : ∃ deviceCache,
    startLinks deviceCache topology.sharedL3.isSome =
      baseLinks topology.interconnect.devicePath ++ l3Links topology.sharedL3.isSome ∧
    topology.interconnect.links.Perm (startLinks deviceCache topology.sharedL3.isSome ++
      topology.clusters.flatMap (·.links topology.clusterBus)) := by
  obtain ⟨ranges, cache, wired⟩ := composed.wired
  have start : startLinks cache.isSome topology.sharedL3.isSome =
      baseLinks (.ofCache? ranges cache) ++ l3Links topology.sharedL3.isSome := by
    rw [startLinks, ← baseLinks_ofCache?]
  refine ⟨cache.isSome, ?_, ?_⟩
  · rw [start, wired]
    rfl
  · rw [start, wired]
    exact links_wire_perm ..

theorem nodup_names : (topology.clusters.map (·.name)).Nodup := by
  have names : topology.clusters.map (·.name) =
      (topology.clusters.map (·.index)).map Cluster.nameAt := by
    rw [List.map_map]
    rfl
  rw [names, composed.numbered]
  exact List.nodup_range.map Cluster.nameAt_injective

/-- A cluster that is bridged into the machine by itself has neither links nor caches. -/
theorem wired_or_unlinked {cluster : Cluster} (member : cluster ∈ topology.clusters) :
    cluster.model.isSelfBridged = false ∨
      (∀ bus, cluster.links bus = []) ∧ cluster.cachePaths = [] := by
  cases bridged : cluster.model.isSelfBridged with
  | false => exact .inl rfl
  | true =>
      have bare := composed.bare cluster member bridged
      exact .inr ⟨fun _ => bare.links_eq_nil bridged, bare.cachePaths_eq_nil⟩

theorem wired_of_mem_links {cluster : Cluster} (member : cluster ∈ topology.clusters)
    {bus : String} {link : Link} (among : link ∈ cluster.links bus) :
    cluster.model.isSelfBridged = false := by
  obtain wired | ⟨unlinked, -⟩ := composed.wired_or_unlinked member
  · exact wired
  · rw [unlinked] at among
    cases among

/-- Names are distinct, if those of each cluster are inside of it, and distinct. -/
theorem nodup_flatMap_clusters {names : Cluster → List String}
    (inside : ∀ cluster ∈ topology.clusters, ∀ name ∈ names cluster, Inside cluster.name name)
    (each : ∀ cluster ∈ topology.clusters, (names cluster).Nodup) :
    (topology.clusters.flatMap names).Nodup :=
  nodup_flatMap_inside (fun cluster _ => Cluster.numbered_nameAt cluster.index)
    composed.nodup_names inside each

/-- No two cores of a machine have one path. -/
theorem nodup_corePaths : (topology.cores.map (·.path)).Nodup := by
  rw [Topology.cores, List.map_flatMap]
  refine composed.nodup_flatMap_clusters ?_ fun cluster member =>
    (composed.placed cluster member).nodup_paths
  intro cluster member path among
  obtain ⟨core, inside, rfl⟩ := List.mem_map.mp among
  exact (composed.placed cluster member).inside inside

/-- No requesting end is wired twice. -/
theorem nodup_sources : (topology.interconnect.links.map (·.source)).Nodup := by
  obtain ⟨deviceCache, -, links⟩ := composed.links_perm
  rw [(links.map _).nodup_iff, List.map_append, List.map_flatMap, List.nodup_append]
  have inside : ∀ cluster ∈ topology.clusters,
      ∀ source ∈ (cluster.links topology.clusterBus).map (·.source),
        Inside cluster.name source := by
    intro cluster member source among
    obtain ⟨link, isLink, rfl⟩ := List.mem_map.mp among
    exact ((composed.placed cluster member).inside_of_mem_links
      (composed.wired_of_mem_links member isLink) isLink).1
  refine ⟨nodup_startLinks .., composed.nodup_flatMap_clusters inside ?_, ?_⟩
  · intro cluster member
    obtain wired | ⟨unlinked, -⟩ := composed.wired_or_unlinked member
    · exact (composed.placed cluster member).nodup_sources wired
    · rw [unlinked]
      exact List.nodup_nil
  · intro source isStart other among same
    obtain ⟨link, isLink, rfl⟩ := List.mem_map.mp isStart
    obtain ⟨cluster, member, isSource⟩ := List.mem_flatMap.mp among
    exact (firstChar?_startLinks _ _ link isLink).1
      (same ▸ Cluster.firstChar?_of_inside (inside cluster member other isSource))

theorem nodup_cachePaths : topology.cachePaths.Nodup := by
  have inside : ∀ cluster ∈ topology.clusters, ∀ path ∈ cluster.cachePaths,
      Inside cluster.name path :=
    fun cluster member _ => (composed.placed cluster member).inside_of_mem_cachePaths
  rw [cachePaths_eq, List.nodup_append]
  refine ⟨composed.nodup_flatMap_clusters inside fun cluster member =>
    (composed.placed cluster member).nodup_cachePaths, ?_, ?_⟩
  · split <;> simp
  · intro path among other isThird same
    obtain ⟨cluster, member, isPath⟩ := List.mem_flatMap.mp among
    have first := Cluster.firstChar?_of_inside (inside cluster member path isPath)
    split at isThird
    · rw [same, List.mem_singleton.mp isThird] at first
      cases first
    · cases isThird

theorem buses_eq : topology.interconnect.buses =
    [{ name := memoryBus, kind := .memory }, { name := deviceBus, kind := .devices }] ++
      (topology.clusters.flatMap Cluster.l2Buses ++ l3Buses topology.sharedL3.isSome) := by
  obtain ⟨ranges, cache, wired⟩ := composed.wired
  rw [wired]
  rfl

theorem memoryBus_mem :
    ({ name := memoryBus, kind := .memory } : Bus) ∈ topology.interconnect.buses := by
  simp [composed.buses_eq]

theorem nodup_buses : (topology.interconnect.buses.map (·.name)).Nodup := by
  have inside : ∀ cluster ∈ topology.clusters, ∀ name ∈ cluster.l2Buses.map (·.name),
      Inside cluster.name name := by
    intro cluster _ name among
    rw [Cluster.l2Buses] at among
    split at among
    · obtain rfl := List.mem_singleton.mp among
      exact cluster.inside_l2Bus
    · cases among
  have fixed : ∀ hasL3, ([memoryBus, deviceBus] ++ (l3Buses hasL3).map (·.name)).Nodup ∧
      ∀ name ∈ [memoryBus, deviceBus] ++ (l3Buses hasL3).map (·.name),
        firstChar? name ≠ some 'c' := by
    decide
  obtain ⟨distinct, apart⟩ := fixed topology.sharedL3.isSome
  have regrouped : (topology.interconnect.buses.map (·.name)).Perm
      (([memoryBus, deviceBus] ++ (l3Buses topology.sharedL3.isSome).map (·.name)) ++
        topology.clusters.flatMap fun cluster => cluster.l2Buses.map (·.name)) := by
    rw [composed.buses_eq, List.map_append, List.map_append, List.map_flatMap, List.append_assoc]
    exact List.perm_append_comm.append_left _
  rw [regrouped.nodup_iff, List.nodup_append]
  refine ⟨distinct, composed.nodup_flatMap_clusters inside fun cluster _ => ?_, ?_⟩
  · rw [Cluster.l2Buses]
    split <;> simp
  · intro name isFixed other among same
    obtain ⟨cluster, member, isBus⟩ := List.mem_flatMap.mp among
    exact apart name isFixed
      (same ▸ Cluster.firstChar?_of_inside (inside cluster member other isBus))

/-- The links into caches lead into each that is listed, and perhaps into the device cache. -/
theorem targets_into_caches : ∃ deviceCache : Bool,
    ((topology.interconnect.links.filter Link.isIntoCache).map (·.target)).Perm
      (((if deviceCache then ["iocache"] else []) ++ topology.cachePaths).map
        (· ++ ".cpu_side")) := by
  obtain ⟨deviceCache, -, links⟩ := composed.links_perm
  have own : (topology.clusters.flatMap fun cluster =>
      ((cluster.links topology.clusterBus).filter Link.isIntoCache).map (·.target)).Perm
      (topology.clusters.flatMap fun cluster => cluster.cachePaths.map (· ++ ".cpu_side")) := by
    refine .flatMap_left _ fun cluster member => ?_
    obtain wired | ⟨unlinked, uncached⟩ := composed.wired_or_unlinked member
    · exact Cluster.targets_into_caches wired
    · rw [unlinked, uncached]
      exact .refl _
  refine ⟨deviceCache, ((links.filter _).map _).trans ?_⟩
  rw [List.filter_append, List.filter_flatMap, List.map_append, List.map_flatMap,
    targets_into_caches_startLinks, cachePaths_eq, List.map_append, List.map_append,
    List.map_flatMap, List.append_assoc]
  exact (List.perm_append_comm.trans (own.append_right _)).append_left _

/-- Every cache that is listed has a link out of its far side. -/
theorem mem_sources_of_mem_cachePaths {path : String} (among : path ∈ topology.cachePaths) :
    path ++ ".mem_side" ∈ topology.interconnect.links.map (·.source) := by
  obtain ⟨deviceCache, -, links⟩ := composed.links_perm
  rw [(links.map _).mem_iff, List.map_append, List.map_flatMap]
  rw [cachePaths_eq] at among
  rcases List.mem_append.mp among with own | third
  · obtain ⟨cluster, member, cached⟩ := List.mem_flatMap.mp own
    refine List.mem_append_right _ (List.mem_flatMap.mpr ⟨cluster, member, ?_⟩)
    obtain wired | ⟨-, uncached⟩ := composed.wired_or_unlinked member
    · exact Cluster.mem_sources_of_mem_cachePaths wired cached
    · rw [uncached] at cached
      cases cached
  · split at third
    next hasL3 =>
      obtain rfl := List.mem_singleton.mp third
      simp [startLinks, l3Links, hasL3]
    next => cases third

theorem exists_l2Bus {cluster : Cluster} (member : cluster ∈ topology.clusters)
    (hasL2 : cluster.l2.isSome) :
    ∃ bus ∈ topology.interconnect.buses, bus.name = cluster.l2Bus := by
  rw [composed.buses_eq]
  let bus : Bus := ⟨cluster.l2Bus, .l2 crossbarWidth, some cluster.clock⟩
  have built : bus ∈ cluster.l2Buses := by
    rw [Cluster.l2Buses, if_pos hasL2]
    exact List.mem_singleton_self _
  exact ⟨bus, List.mem_append_right _ (List.mem_append_left _
    (List.mem_flatMap.mpr ⟨cluster, member, built⟩)), rfl⟩

theorem exists_clusterBus :
    ∃ bus ∈ topology.interconnect.buses, bus.name = topology.clusterBus := by
  rw [composed.buses_eq, clusterBus]
  cases topology.sharedL3.isSome <;> simp [sharedBus, l3Buses]

theorem responds_clusterBus : topology.Responds (respondingSide topology.clusterBus) := by
  obtain ⟨bus, built, named⟩ := composed.exists_clusterBus
  exact named ▸ .bus built

theorem responds_entryBus {cluster : Cluster} (member : cluster ∈ topology.clusters) :
    topology.Responds (respondingSide (cluster.entryBus topology.clusterBus)) := by
  rw [Cluster.entryBus]
  split
  next hasL2 =>
    obtain ⟨bus, built, named⟩ := composed.exists_l2Bus member hasL2
    exact named ▸ .bus built
  next => exact composed.responds_clusterBus

/-- The links of clusters join ends of objects that the machine has. -/
theorem ends_of_mem_links {cluster : Cluster} (member : cluster ∈ topology.clusters) {link : Link}
    (among : link ∈ cluster.links topology.clusterBus) :
    topology.Requests link.source ∧ topology.Responds link.target := by
  have wired := composed.wired_of_mem_links member among
  rcases List.mem_append.mp ((Cluster.links_perm wired).mem_iff.mp among) with own | second
  · obtain ⟨core, inside, isLink⟩ := List.mem_flatMap.mp own
    have listed : ∀ {path}, path ∈ core.cachePaths → path ∈ topology.cachePaths := fun cached =>
      mem_cachePaths_of_mem member (Cluster.mem_cachePaths_of_mem inside cached)
    constructor
    · obtain ⟨path, cached, source⟩ | ⟨stream, source⟩ := Core.source_of_mem isLink
      · exact source ▸ .cache (listed cached)
      · exact source ▸ .core (List.mem_flatMap.mpr ⟨cluster, member, inside⟩) stream
    · obtain ⟨path, cached, target⟩ | target := Core.target_of_mem isLink
      · exact target ▸ .cache (listed cached)
      · exact target ▸ composed.responds_entryBus member
  · obtain ⟨hasL2, same⟩ := Cluster.mem_sharedLinks second
    have listed : cluster.l2Path ∈ topology.cachePaths :=
      mem_cachePaths_of_mem member (Cluster.l2Path_mem_cachePaths hasL2)
    obtain ⟨bus, built, named⟩ := composed.exists_l2Bus member hasL2
    obtain rfl | rfl := same
    · exact ⟨named ▸ .bus built, .cache listed⟩
    · exact ⟨.cache listed, composed.responds_clusterBus⟩

/-- The links that every machine starts with do so too. -/
theorem ends_of_mem_baseLinks {link : Link}
    (among : link ∈ baseLinks topology.interconnect.devicePath) :
    (link.source = "system_port" ∨ topology.Requests link.source) ∧
      topology.Responds link.target := by
  have devices : ({ name := deviceBus, kind := .devices } : Bus) ∈
      topology.interconnect.buses := by
    simp [composed.buses_eq]
  have bridge : topology.interconnect.deviceBridge.name = "iobridge" := by
    obtain ⟨ranges, cache, wired⟩ := composed.wired
    rw [wired]
    rfl
  simp only [baseLinks, List.mem_cons, List.not_mem_nil, or_false] at among
  obtain rfl | rfl | rfl | rfl | rfl := among
  · have requests : topology.Requests _ := .bridge
    rw [bridge] at requests
    exact ⟨.inr requests, .bus devices⟩
  · have responds : topology.Responds _ := .bridge
    rw [bridge] at responds
    exact ⟨.inr (.bus composed.memoryBus_mem), responds⟩
  · exact ⟨.inr .devices, .bus composed.memoryBus_mem⟩
  · exact ⟨.inr (.bus devices), .devices⟩
  · exact ⟨.inl rfl, .bus composed.memoryBus_mem⟩

theorem ends_of_mem_l3Links {link : Link} (among : link ∈ l3Links topology.sharedL3.isSome) :
    topology.Requests link.source ∧ topology.Responds link.target := by
  rw [l3Links] at among
  split at among
  next hasL3 =>
    have crossbar : ({ name := l3Bus, kind := .l3 crossbarWidth } : Bus) ∈
        topology.interconnect.buses := by
      simp [composed.buses_eq, l3Buses, hasL3]
    have listed : l3Path ∈ topology.cachePaths := by
      simp [cachePaths_eq, hasL3]
    simp only [List.mem_cons, List.not_mem_nil, or_false] at among
    obtain rfl | rfl := among
    · exact ⟨.bus crossbar, .cache listed⟩
    · exact ⟨.cache listed, .bus composed.memoryBus_mem⟩
  next => cases among

/-- Links join ends of objects that the machine has. -/
theorem ends_of_mem {link : Link} (among : link ∈ topology.interconnect.links) :
    (link.source = "system_port" ∨ topology.Requests link.source) ∧
      topology.Responds link.target := by
  obtain ⟨deviceCache, start, links⟩ := composed.links_perm
  rw [links.mem_iff, start, List.mem_append, List.mem_append, List.mem_flatMap] at among
  rcases among with (base | third) | ⟨cluster, member, own⟩
  · exact composed.ends_of_mem_baseLinks base
  · exact (composed.ends_of_mem_l3Links third).imp_left .inr
  · exact (composed.ends_of_mem_links member own).imp_left .inr

/-- The device cache is not one of those that are listed. -/
theorem iocache_notMem : "iocache" ∉ topology.cachePaths := by
  rw [cachePaths_eq]
  intro among
  rcases List.mem_append.mp among with own | third
  · obtain ⟨cluster, member, cached⟩ := List.mem_flatMap.mp own
    cases Cluster.firstChar?_of_inside
      ((composed.placed cluster member).inside_of_mem_cachePaths cached)
  · split at third
    · exact absurd (List.mem_singleton.mp third) (by decide)
    · cases third

/-- Into every cache that is listed there is exactly one link. -/
theorem exists_link_into {path : String} (listed : path ∈ topology.cachePaths) :
    ∃ link, (topology.interconnect.links.filter fun link =>
      link.target = path ++ ".cpu_side") = [link] := by
  obtain ⟨deviceCache, targets⟩ := composed.targets_into_caches
  -- Links share targets only at crossbars, so those into caches are taken by themselves.
  have distinct : ((topology.interconnect.links.filter Link.isIntoCache).map (·.target)).Nodup := by
    rw [targets.nodup_iff]
    refine .map (fun first second same => (String.append_left_inj _).mp same) ?_
    rw [List.nodup_append]
    refine ⟨by split <;> simp, composed.nodup_cachePaths, ?_⟩
    intro device isDevice other isListed same
    split at isDevice
    · rw [← same, List.mem_singleton.mp isDevice] at isListed
      exact composed.iocache_notMem isListed
    · cases isDevice
  have present := targets.mem_iff.mpr
    (List.mem_map_of_mem (f := (· ++ ".cpu_side")) (List.mem_append_right _ listed))
  obtain ⟨link, isLink, target⟩ := List.mem_map.mp present
  refine ⟨link, ?_⟩
  rw [← filter_view_eq_singleton distinct isLink, List.filter_filter, target]
  refine List.filter_congr fun other _ => ?_
  by_cases same : other.target = path ++ ".cpu_side"
  · have into : other.isIntoCache = true := decide_eq_true (same ▸ lastChar?_append path rfl)
    simp [same, into]
  · simp [same]

/-- Out of every cache that is listed there is exactly one link. -/
theorem exists_link_out {path : String} (listed : path ∈ topology.cachePaths) :
    ∃ link, (topology.interconnect.links.filter fun link =>
      link.source = path ++ ".mem_side") = [link] := by
  obtain ⟨link, isLink, source⟩ := List.mem_map.mp (composed.mem_sources_of_mem_cachePaths listed)
  exact ⟨link, source ▸ filter_view_eq_singleton composed.nodup_sources isLink⟩

end IsComposed

/-- No requesting end of the machine is wired twice, links join ends of objects that it has,
buses and caches have names of their own, and every cache has one link on either side. -/
structure IsWellFormed (topology : Topology) : Prop where
  sources_distinct : (topology.interconnect.links.map (·.source)).Nodup
  source_exists : ∀ link ∈ topology.interconnect.links,
    link.source = "system_port" ∨ topology.Requests link.source
  target_exists : ∀ link ∈ topology.interconnect.links, topology.Responds link.target
  buses_distinct : (topology.interconnect.buses.map (·.name)).Nodup
  caches_distinct : topology.cachePaths.Nodup
  into_cache : ∀ path ∈ topology.cachePaths, ∃ link,
    (topology.interconnect.links.filter fun link => link.target = path ++ ".cpu_side") = [link]
  out_of_cache : ∀ path ∈ topology.cachePaths, ∃ link,
    (topology.interconnect.links.filter fun link => link.source = path ++ ".mem_side") = [link]

end Topology

namespace Configuration

/-- Every machine that can be composed is well formed. -/
theorem isWellFormed {configuration : Configuration} {topology : Topology}
    (accepted : configuration.topology = .ok topology) : topology.IsWellFormed := by
  have composed := isComposed accepted
  exact
    { sources_distinct := composed.nodup_sources
      source_exists := fun _ among => (composed.ends_of_mem among).1
      target_exists := fun _ among => (composed.ends_of_mem among).2
      buses_distinct := composed.nodup_buses
      caches_distinct := composed.nodup_cachePaths
      into_cache := fun _ => composed.exists_link_into
      out_of_cache := fun _ => composed.exists_link_out }

/-- A cluster with walker caches and monitors, one without, and one that has no caches at all. -/
def mixed : Configuration where
  clusters :=
    [{ cores := 2, model := .hpi, monitorInterrupts := some [23, 24] }, { model := .timing },
      { model := .fastModel }]

theorem isWellFormed_mixed : ∃ topology, mixed.topology = .ok topology ∧
    topology.IsWellFormed ∧ topology.cachePaths.length = 13 := by
  have composed : ∃ topology, mixed.topology = .ok topology ∧ topology.cachePaths.length = 13 :=
    ⟨_, rfl, rfl⟩
  obtain ⟨topology, accepted, counted⟩ := composed
  exact ⟨topology, accepted, isWellFormed accepted, counted⟩

end Configuration

end Mainboard
