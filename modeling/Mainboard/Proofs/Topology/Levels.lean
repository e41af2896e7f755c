import Mathlib.Data.UInt
import Mainboard.Proofs.Topology.Acceptance
import Mainboard.Proofs.Topology.WellFormed

/-!
# Which caches are built

The model of a cluster decides whether caches are built for it at all, and the
depth of the hierarchy how many of their levels.  All cores of a cluster are
built alike, and what is built at one level does not depend on how many levels
follow.  A second level comes with a crossbar of its cluster, and the third with
the one crossbar that all clusters share.
-/

namespace Mainboard

open Interconnect

theorem CoreModel.requiresCaches_iff (model : CoreModel) :
    model.requiresCaches ↔ model.memoryMode = .timing :=
  decide_eq_true_iff

/-- Models that need caches have presets for the private ones, and no others are built. -/
theorem PrivateCaches.isSome_build? (model : CoreModel) (requests : HierarchyRequest) :
    (build? model model.cachePresets requests).isSome = model.requiresCaches := by
  cases model <;> rfl

/-- Both walkers of a core have a cache, or neither has. -/
theorem PrivateCaches.isSome_walk {model : CoreModel} {requests : HierarchyRequest}
    {caches : PrivateCaches} (built : build? model model.cachePresets requests = some caches) :
    caches.fetchWalk.isSome = model.cachesWalks ∧ caches.dataWalk.isSome = model.cachesWalks := by
  cases model with
  | atomic | kvm | fastModel => cases built
  | timing | minor | hpi | outOfOrder =>
      obtain rfl := Option.some.inj built
      exact ⟨rfl, rfl⟩

theorem Cache.isSome_buildL2? (model : CoreModel) (requests : HierarchyRequest) :
    (buildL2? model model.cachePresets requests).isSome = model.requiresCaches := by
  cases model <;> rfl

namespace Cluster

section Caches

variable {cluster : Cluster} {levels : Nat}

theorem cores_withL2 (cluster : Cluster) : cluster.withL2.cores = cluster.cores := by
  rw [withL2]
  split <;> rfl

theorem l2_withL2 (none : cluster.l2 = none) : cluster.withL2.l2 =
    (Cache.buildL2? cluster.model cluster.presets cluster.requests).map (·.cache) := by
  rw [withL2]
  split
  next unbuilt => rw [unbuilt, none, Option.map_none]
  next configured built => rw [built, Option.map_some]

theorem ignored_withL2 (cluster : Cluster) : cluster.withL2.ignored = cluster.ignored ++
    ((Cache.buildL2? cluster.model cluster.presets cluster.requests).map (·.tagged)).getD [] := by
  rw [withL2]
  split
  next unbuilt => simp [unbuilt]
  next configured built => simp [built]

/-- All cores of a cluster get the same private caches, or none if there is no level for them. -/
theorem map_caches_withCaches (bare : cluster.IsBare) :
    (cluster.withCaches levels).cores.map (·.caches) =
      List.replicate cluster.cores.length (if 1 ≤ levels then
        PrivateCaches.build? cluster.model cluster.presets cluster.requests else none) := by
  have second : (cluster.withCaches levels).cores =
      (if 1 ≤ levels then cluster.withPrivateCaches else cluster).cores := by
    rw [withCaches]
    split
    · exact cores_withL2 _
    · rfl
  rw [second, List.eq_replicate_iff, List.length_map]
  split
  · simp [withPrivateCaches]
  · exact ⟨rfl, by simpa using bare.caches⟩

theorem l2_withCaches (bare : cluster.IsBare) : (cluster.withCaches levels).l2 =
    if 2 ≤ levels then
      (Cache.buildL2? cluster.model cluster.presets cluster.requests).map (·.cache)
    else none := by
  rw [withCaches]
  split
  next deep =>
    rw [if_pos (by omega)]
    exact l2_withL2 bare.l2
  next => split <;> exact bare.l2

/-- However many cores are built alike, one of them is reported on. -/
theorem ignored_withPrivateCaches (inhabited : cluster.cores ≠ []) :
    cluster.withPrivateCaches.ignored = cluster.ignored ++ ((PrivateCaches.build? cluster.model
      cluster.presets cluster.requests).map (·.ignored)).getD [] := by
  obtain ⟨core, others, cores⟩ := List.exists_cons_of_ne_nil inhabited
  rw [withPrivateCaches, cores]
  cases built : PrivateCaches.build? cluster.model cluster.presets cluster.requests with
  | none =>
      have absent : others.findSome? (fun _ => (none : Option PrivateCaches)) = none :=
        List.findSome?_eq_none_iff.mpr fun _ _ => rfl
      simp [List.findSome?_map, Function.comp_def, absent]
  | some caches => simp

/-- What is ignored for the private caches comes before what is ignored for the second level. -/
theorem ignored_withCaches (none : cluster.ignored = []) (inhabited : cluster.cores ≠ []) :
    (cluster.withCaches levels).ignored =
      (if 1 ≤ levels then ((PrivateCaches.build? cluster.model cluster.presets
        cluster.requests).map (·.ignored)).getD [] else []) ++
      if 2 ≤ levels then ((Cache.buildL2? cluster.model cluster.presets
        cluster.requests).map (·.tagged)).getD [] else [] := by
  have first : (if 1 ≤ levels then cluster.withPrivateCaches else cluster).ignored =
      if 1 ≤ levels then ((PrivateCaches.build? cluster.model cluster.presets
        cluster.requests).map (·.ignored)).getD [] else [] := by
    split
    · rw [ignored_withPrivateCaches inhabited, none, List.nil_append]
    · exact none
  rw [withCaches]
  split
  next deep =>
    have some : 1 ≤ levels := by omega
    rw [ignored_withL2, first]
    simp only [some, ↓reduceIte]
    rfl
  next => rw [first, List.append_nil]

end Caches

namespace IsComposedFrom

variable {cluster : Cluster} {request : ClusterRequest} {index : Nat}
variable (composed : cluster.IsComposedFrom request index)
include composed

theorem isBare : cluster.IsBare := by
  obtain ⟨earlier, settings, -, -, rfl⟩ := composed
  exact ⟨rfl, by simp [Blueprint.nextCluster, Blueprint.nextCore]⟩

theorem cores_ne_nil : cluster.cores ≠ [] := by
  have lengths := composed.length_cores
  obtain ⟨earlier, settings, -, checked, -⟩ := composed
  have counted := request.obeys_check
  rw [checked] at counted
  have positive : 0 < request.coreCount := counted.holds_of_ok _ List.mem_cons_self
  exact List.ne_nil_of_length_pos (lengths ▸ positive)

end IsComposedFrom

namespace IsFinishedFrom

variable {cluster : Cluster} {request : ClusterRequest} {index levels : Nat}
variable (finished : cluster.IsFinishedFrom request index levels)
include finished

/-- The private caches of the cores, which all have the same. -/
theorem map_caches : cluster.cores.map (·.caches) =
    List.replicate request.coreCount (if 1 ≤ levels then
      PrivateCaches.build? request.model request.model.cachePresets request.caches else none) := by
  obtain ⟨composed, made, added⟩ := finished
  have cached := @map_caches_withCaches composed levels made.isBare
  rw [made.length_cores] at cached
  obtain ⟨earlier, settings, -, -, rfl⟩ := made
  obtain ⟨cores, rfl, same⟩ := addRequestedMonitors_eq_ok added
  rw [← same (·.caches) fun _ _ _ _ => rfl, cached]
  rfl

theorem caches_eq {core : Core} (member : core ∈ cluster.cores) : core.caches =
    if 1 ≤ levels then
      PrivateCaches.build? request.model request.model.cachePresets request.caches
    else none :=
  List.eq_of_mem_replicate (finished.map_caches ▸ List.mem_map_of_mem member)

theorem l2_eq : cluster.l2 = if 2 ≤ levels then
    (Cache.buildL2? request.model request.model.cachePresets request.caches).map (·.cache)
    else none := by
  obtain ⟨composed, made, added⟩ := finished
  rw [← l2_of_monitored added, l2_withCaches made.isBare]
  obtain ⟨earlier, settings, -, -, rfl⟩ := made
  rfl

theorem cores_ne_nil : cluster.cores ≠ [] := by
  have lengths := congrArg List.length finished.map_caches
  obtain ⟨composed, made, -⟩ := finished
  rw [List.length_map, List.length_replicate, ← made.length_cores] at lengths
  exact List.ne_nil_of_length_pos (lengths ▸ List.length_pos_iff.mpr made.cores_ne_nil)

theorem isSome_caches_iff {core : Core} (member : core ∈ cluster.cores) :
    core.caches.isSome ↔ 1 ≤ levels ∧ request.model.memoryMode = .timing := by
  rw [finished.caches_eq member, ← CoreModel.requiresCaches_iff,
    ← PrivateCaches.isSome_build? _ request.caches]
  split <;> simp [*]

theorem isSome_l2_iff : cluster.l2.isSome ↔ 2 ≤ levels ∧ request.model.memoryMode = .timing := by
  rw [finished.l2_eq, ← CoreModel.requiresCaches_iff, ← Cache.isSome_buildL2? _ request.caches]
  split <;> simp [*]

end IsFinishedFrom

end Cluster

section Levels

variable {depth : UInt8} {cachesEnabled : Bool}

theorem one_le_builtLevels_iff (shallow : depth = 1 ∨ depth = 2 ∨ depth = 3) :
    1 ≤ builtLevels depth cachesEnabled ↔ cachesEnabled := by
  rcases shallow with rfl | rfl | rfl <;> cases cachesEnabled <;> decide

theorem two_le_builtLevels_iff :
    2 ≤ builtLevels depth cachesEnabled ↔ cachesEnabled ∧ 2 ≤ depth := by
  cases cachesEnabled with
  | false => simp [builtLevels]
  | true => simp [builtLevels, UInt8.le_iff_toNat_le]

theorem three_le_builtLevels_iff (shallow : depth = 1 ∨ depth = 2 ∨ depth = 3) :
    3 ≤ builtLevels depth cachesEnabled ↔ cachesEnabled ∧ depth = 3 := by
  rcases shallow with rfl | rfl | rfl <;> cases cachesEnabled <;> decide

end Levels

/-- A clock is one of some clocks, and none of them is faster. -/
structure Frequency.IsFastest (clock : Frequency) (clocks : List Frequency) : Prop where
  member : clock ∈ clocks
  bound : ∀ other ∈ clocks, other.hertz ≤ clock.hertz

/-- The faster of two clocks stands for both of them. -/
theorem Frequency.IsFastest.of_faster {left right clock : Frequency} {clocks : List Frequency}
    (fastest : clock.IsFastest (left.faster right :: clocks)) :
    clock.IsFastest (left :: right :: clocks) := by
  obtain ⟨member, bound⟩ := fastest
  obtain ⟨first, rest⟩ := List.forall_mem_cons.mp bound
  rw [faster] at member first
  split at first
  next ordered =>
    rw [if_pos ordered] at member
    refine ⟨List.mem_cons_of_mem _ member, List.forall_mem_cons.mpr
      ⟨UInt64.le_trans ordered first, List.forall_mem_cons.mpr ⟨first, rest⟩⟩⟩
  next ordered =>
    rw [if_neg ordered] at member
    have slower := (UInt64.le_total left.hertz right.hertz).resolve_left ordered
    refine ⟨?_, List.forall_mem_cons.mpr ⟨first, List.forall_mem_cons.mpr ⟨?_, rest⟩⟩⟩
    · rcases List.mem_cons.mp member with rfl | later
      · exact List.mem_cons_self
      · exact List.mem_cons_of_mem _ (List.mem_cons_of_mem _ later)
    · exact UInt64.le_trans slower first

namespace Topology

theorem isFastest_foldl_faster (clusters : List Cluster) (first : Frequency) :
    (clusters.foldl (fun fastest next => fastest.faster next.clock) first).IsFastest
      (first :: clusters.map (·.clock)) := by
  induction clusters generalizing first with
  | nil => exact ⟨List.mem_singleton_self _, by simp⟩
  | cons cluster clusters ih => exact (ih (first.faster cluster.clock)).of_faster

theorem isFastest_fastestClock {clusters : List Cluster} (inhabited : clusters ≠ []) :
    (fastestClock clusters).IsFastest (clusters.map (·.clock)) := by
  cases clusters with
  | nil => exact absurd rfl inhabited
  | cons cluster clusters => exact isFastest_foldl_faster clusters cluster.clock

end Topology

namespace Topology

/-- What a machine has of caches for a cluster, if all its cores have private ones just if `first`,
and if there is a second level just if `second`. -/
structure HasCaches (topology : Topology) (cluster : Cluster) (first second : Prop) : Prop where
  inhabited : cluster.cores ≠ []
  l1 : ∀ core ∈ cluster.cores, core.caches.isSome ↔ first
  alike : ∀ core ∈ cluster.cores, ∀ other ∈ cluster.cores, core.caches = other.caches
  walks : ∀ core ∈ cluster.cores, ∀ caches, core.caches = some caches →
    caches.fetchWalk.isSome = cluster.model.cachesWalks ∧
      caches.dataWalk.isSome = cluster.model.cachesWalks
  l2 : cluster.l2.isSome ↔ second
  crossbar : (∃ bus ∈ topology.interconnect.buses, bus.name = cluster.l2Bus) ↔ second
  clocked : ∀ bus ∈ topology.interconnect.buses, bus.name = cluster.l2Bus →
    bus.clock = some cluster.clock

variable {topology : Topology}

namespace IsComposed

variable (composed : topology.IsComposed)
include composed

/-- Besides the buses of every machine there are the crossbars of its shared caches. -/
theorem mem_buses_iff {bus : Bus} : bus ∈ topology.interconnect.buses ↔
    bus = { name := memoryBus, kind := .memory } ∨ bus = { name := deviceBus, kind := .devices } ∨
      (∃ cluster ∈ topology.clusters, cluster.l2.isSome ∧
        bus = ⟨cluster.l2Bus, .l2 crossbarWidth, some cluster.clock⟩) ∨
      topology.sharedL3.isSome ∧ bus = { name := l3Bus, kind := .l3 crossbarWidth } := by
  have second : ∀ cluster : Cluster, bus ∈ cluster.l2Buses ↔
      cluster.l2.isSome ∧ bus = ⟨cluster.l2Bus, .l2 crossbarWidth, some cluster.clock⟩ := by
    intro cluster
    rw [Cluster.l2Buses]
    split <;> simp [*]
  have third : bus ∈ l3Buses topology.sharedL3.isSome ↔
      topology.sharedL3.isSome ∧ bus = { name := l3Bus, kind := .l3 crossbarWidth } := by
    rw [l3Buses]
    split <;> simp [*]
  rw [composed.buses_eq]
  simp only [List.mem_append, List.mem_cons, List.not_mem_nil, or_false, List.mem_flatMap, second,
    third, or_assoc]

/-- A bus with the name that a cluster's crossbar has is this crossbar. -/
theorem eq_of_l2Bus {cluster : Cluster} (member : cluster ∈ topology.clusters) {bus : Bus}
    (built : bus ∈ topology.interconnect.buses) (named : bus.name = cluster.l2Bus) :
    cluster.l2.isSome ∧ bus.clock = some cluster.clock := by
  have first := Cluster.firstChar?_of_inside cluster.inside_l2Bus
  rw [← named] at first
  obtain rfl | rfl | ⟨other, among, hasL2, rfl⟩ | ⟨-, rfl⟩ := composed.mem_buses_iff.mp built
  · cases first
  · cases first
  · have name : other.name = cluster.name := (String.append_left_inj _).mp named
    obtain rfl := List.inj_on_of_nodup_map composed.nodup_names among member name
    exact ⟨hasL2, rfl⟩
  · cases first

theorem exists_l2Bus_iff {cluster : Cluster} (member : cluster ∈ topology.clusters) :
    (∃ bus ∈ topology.interconnect.buses, bus.name = cluster.l2Bus) ↔ cluster.l2.isSome :=
  ⟨fun ⟨_, built, named⟩ => (composed.eq_of_l2Bus member built named).1,
    composed.exists_l2Bus member⟩

theorem exists_l3Bus_iff :
    (∃ bus ∈ topology.interconnect.buses, bus.name = l3Bus) ↔ topology.sharedL3.isSome := by
  constructor
  · rintro ⟨bus, built, named⟩
    obtain rfl | rfl | ⟨cluster, -, -, rfl⟩ | ⟨hasL3, -⟩ := composed.mem_buses_iff.mp built
    · exact absurd named (by decide)
    · exact absurd named (by decide)
    · have first := Cluster.firstChar?_of_inside cluster.inside_l2Bus
      rw [show cluster.l2Bus = l3Bus from named] at first
      cases first
    · exact hasL3
  · intro hasL3
    exact ⟨_, composed.mem_buses_iff.mpr (.inr (.inr (.inr ⟨hasL3, rfl⟩))), rfl⟩

theorem hasCaches {cluster : Cluster} (member : cluster ∈ topology.clusters)
    {request : ClusterRequest} {index levels : Nat}
    (finished : cluster.IsFinishedFrom request index levels) :
    topology.HasCaches cluster (1 ≤ levels ∧ request.model.memoryMode = .timing)
      (2 ≤ levels ∧ request.model.memoryMode = .timing) where
  inhabited := finished.cores_ne_nil
  l1 _ among := finished.isSome_caches_iff among
  alike _ one _ other := by rw [finished.caches_eq one, finished.caches_eq other]
  walks core among caches present := by
    rw [finished.caches_eq among] at present
    split at present
    · rw [finished.model_eq]
      exact PrivateCaches.isSome_walk present
    · cases present
  l2 := finished.isSome_l2_iff
  crossbar := (composed.exists_l2Bus_iff member).trans finished.isSome_l2_iff
  clocked _ built named := (composed.eq_of_l2Bus member built named).2

end IsComposed

end Topology

namespace Configuration

variable {configuration : Configuration} {topology : Topology}

/-- The third level runs at the fastest clock of the clusters. -/
theorem sharedL3_of_topology (accepted : configuration.topology = .ok topology) :
    ∃ clock : Frequency, clock.IsFastest (topology.clusters.map (·.clock)) ∧
      topology.sharedL3 = if 3 ≤ builtLevels configuration.depth configuration.cachesEnabled then
        some (.buildL3 clock) else none := by
  have lengths := (configured_clusters_of_topology accepted).length_eq
  obtain ⟨empty, blueprint, started, filled, assembled⟩ := topology_eq_ok accepted
  obtain ⟨clusters, monitored, rfl⟩ := Blueprint.finished_of_assemble assembled
  have clocks : blueprint.clusters.map (·.clock) = clusters.map (·.clock) := by
    rw [← monitored.map_eq_map fun _ _ => Cluster.clock_of_monitored]
    simp
  have inhabited : blueprint.clusters ≠ [] := by
    rintro none
    rw [none, List.map_nil, eq_comm, List.map_eq_nil_iff] at clocks
    have valid := configuration.exists_topology_iff.mp ⟨_, accepted⟩
    rw [Blueprint.finished, clocks, List.length_nil, List.length_eq_zero_iff] at lengths
    exact valid.inhabited lengths
  refine ⟨Topology.fastestClock blueprint.clusters, ?_, ?_⟩
  · have fastest := Topology.isFastest_fastestClock inhabited
    rwa [clocks] at fastest
  · simp [Blueprint.finished]

/-- The private caches of every core, as the cluster is configured, whatever the depth. -/
theorem map_caches_of_topology (accepted : configuration.topology = .ok topology) :
    topology.clusters.map (·.cores.map (·.caches)) =
      configuration.clusters.map fun configured =>
        List.replicate configured.cores (if configuration.cachesEnabled then
          PrivateCaches.build? configured.model configured.model.cachePresets configured.caches
        else none) := by
  have valid := configuration.exists_topology_iff.mp ⟨topology, accepted⟩
  rw [eq_comm]
  refine (configured_clusters_of_topology accepted).map_eq_map fun configured cluster => ?_
  rintro ⟨index, finished⟩
  rw [finished.map_caches]
  simp only [one_le_builtLevels_iff valid.depth]
  rfl

/-- The second levels, as their clusters are configured, whether two or three levels are built. -/
theorem map_l2_of_topology (accepted : configuration.topology = .ok topology) :
    topology.clusters.map (·.l2) = configuration.clusters.map fun configured =>
      if configuration.cachesEnabled ∧ 2 ≤ configuration.depth then
        (Cache.buildL2? configured.model configured.model.cachePresets configured.caches).map
          (·.cache)
      else none := by
  rw [eq_comm]
  refine (configured_clusters_of_topology accepted).map_eq_map fun configured cluster => ?_
  rintro ⟨index, finished⟩
  rw [finished.l2_eq]
  simp only [two_le_builtLevels_iff]
  rfl

/-- The model of a cluster and the depth decide which caches a machine has.  A cluster has private
caches if caches are built and its model is timed, all its cores the same; it has a second level, at
its clock, if two levels are built; and all share a third, at the fastest clock, if three are.  At
every depth there is a machine with the same private caches, and with the same second levels if
both have any. -/
theorem caches_of_depth_and_model (accepted : configuration.topology = .ok topology) :
    List.Forall₂
        (fun configured cluster => cluster.model = configured.model ∧
          cluster.clock = configured.clock ∧ topology.HasCaches cluster
            (configuration.cachesEnabled ∧ configured.model.memoryMode = .timing)
            (configuration.cachesEnabled ∧ 2 ≤ configuration.depth ∧
              configured.model.memoryMode = .timing))
        configuration.clusters topology.clusters ∧
      (topology.sharedL3.isSome ↔ configuration.cachesEnabled ∧ configuration.depth = 3) ∧
      ((∃ bus ∈ topology.interconnect.buses, bus.name = l3Bus) ↔
        configuration.cachesEnabled ∧ configuration.depth = 3) ∧
      (∀ cache, topology.sharedL3 = some cache →
        ∃ clock : Frequency, cache.clock = some clock ∧
          clock.IsFastest (topology.clusters.map (·.clock))) ∧
      ∀ depth : UInt8, depth = 1 ∨ depth = 2 ∨ depth = 3 →
        ∃ other, { configuration with depth }.topology = .ok other ∧
          other.clusters.map (·.cores.map (·.caches)) =
            topology.clusters.map (·.cores.map (·.caches)) ∧
          (2 ≤ configuration.depth → 2 ≤ depth →
            other.clusters.map (·.l2) = topology.clusters.map (·.l2)) := by
  have valid := configuration.exists_topology_iff.mp ⟨topology, accepted⟩
  have composed := isComposed accepted
  obtain ⟨clock, fastest, shared⟩ := sharedL3_of_topology accepted
  simp only [three_le_builtLevels_iff valid.depth] at shared
  have third : topology.sharedL3.isSome ↔
      configuration.cachesEnabled ∧ configuration.depth = 3 := by
    rw [shared]
    split <;> simp [*]
  refine ⟨?_, third, composed.exists_l3Bus_iff.trans third, ?_, ?_⟩
  · have related := configured_clusters_of_topology accepted
    refine List.forall₂_iff_zip.mpr ⟨related.length_eq, fun {configured cluster} paired => ?_⟩
    obtain ⟨index, finished⟩ := (List.forall₂_iff_zip.mp related).2 paired
    have caches := composed.hasCaches (List.of_mem_zip paired).2 finished
    rw [one_le_builtLevels_iff valid.depth, two_le_builtLevels_iff, and_assoc] at caches
    exact ⟨finished.model_eq, finished.clock_eq, caches⟩
  · intro cache present
    rw [shared] at present
    split at present
    · obtain rfl := Option.some.inj present
      exact ⟨clock, rfl, fastest⟩
    · cases present
  · intro depth shallow
    obtain ⟨other, also⟩ := exists_topology_iff { configuration with depth } |>.mpr
      ⟨shallow, valid.memory, valid.clusters, valid.inhabited, valid.monitors⟩
    refine ⟨other, also, ?_, fun deep alsoDeep => ?_⟩
    · rw [map_caches_of_topology also, map_caches_of_topology accepted]
    · rw [map_l2_of_topology also, map_l2_of_topology accepted]
      simp only [deep, alsoDeep]

/-- Two of the three clusters have private caches and a second level.  With one level only their
private caches are the same. -/
theorem caches_of_mixed : ∃ topology, mixed.topology = .ok topology ∧
    topology.l2Count = 2 ∧ topology.sharedL3.isSome ∧
    ∃ other, { mixed with depth := 1 }.topology = .ok other ∧
      other.clusters.map (·.cores.map (·.caches)) =
        topology.clusters.map (·.cores.map (·.caches)) := by
  have composed : ∃ topology, mixed.topology = .ok topology ∧ topology.l2Count = 2 :=
    ⟨_, rfl, rfl⟩
  obtain ⟨topology, accepted, counted⟩ := composed
  obtain ⟨-, third, -, -, depths⟩ := caches_of_depth_and_model accepted
  obtain ⟨other, also, same, -⟩ := depths 1 (.inl rfl)
  exact ⟨topology, accepted, counted, third.mpr ⟨rfl, rfl⟩, other, also, same⟩

end Configuration

end Mainboard
