import Mainboard.Proofs.Cache.Parameters
import Mainboard.Proofs.Topology.Levels

/-!
# Which policy parameters are reported

Every machine reports the policy parameters that the caches of its clusters do
not carry.  Each is reported once, however many cores a cluster has, in the
order of clusters, levels and parameters.
-/

namespace Mainboard

namespace Cluster

/-- The caches of a cluster at a level: one of every core, or the one that they share. -/
def cachesAt (cluster : Cluster) : ClusterLevel → List Cache
  | .l1i => cluster.cores.filterMap fun core => core.caches.map (·.icache)
  | .l1d => cluster.cores.filterMap fun core => core.caches.map (·.dcache)
  | .l2 => cluster.l2.toList

namespace IsFinishedFrom

variable {cluster : Cluster} {request : ClusterRequest} {index levels : Nat}
variable (finished : cluster.IsFinishedFrom request index levels)
include finished

/-- A cluster reports what is ignored of its requests, for the levels that are built. -/
theorem ignored_eq : cluster.ignored = request.caches.reports request.model levels := by
  obtain ⟨composed, made, added⟩ := finished
  have inhabited := made.cores_ne_nil
  rw [← ignored_of_monitored added]
  obtain ⟨earlier, settings, -, -, rfl⟩ := made
  rw [ignored_withCaches rfl inhabited, HierarchyRequest.reports_eq,
    ← PrivateCaches.ignored_build?, ← Cache.tagged_buildL2?]
  rfl

theorem filterMap_caches_ne_nil_iff (view : PrivateCaches → Cache) :
    (cluster.cores.filterMap fun core => core.caches.map view) ≠ [] ↔
      1 ≤ levels ∧ request.model.memoryMode = .timing := by
  obtain ⟨core, member⟩ := List.exists_mem_of_ne_nil _ finished.cores_ne_nil
  rw [Ne, List.filterMap_eq_nil_iff, ← finished.isSome_caches_iff member, not_iff_comm]
  constructor
  · intro absent other among
    rw [finished.caches_eq among, ← finished.caches_eq member, Option.map_eq_none_iff]
    simpa using absent
  · intro none present
    simp [Option.map_eq_none_iff.mp (none core member)] at present

/-- The levels at which a cluster has caches are those that are built for its model. -/
theorem cachesAt_ne_nil_iff {level : ClusterLevel} :
    cluster.cachesAt level ≠ [] ↔ level ∈ request.model.cachedLevels levels := by
  rw [CoreModel.mem_cachedLevels_iff, CoreModel.requiresCaches_iff, and_comm]
  cases level with
  | l1i | l1d => exact finished.filterMap_caches_ne_nil_iff _
  | l2 =>
      have absent : cluster.cachesAt .l2 = [] ↔ cluster.l2 = none := Option.toList_eq_nil_iff
      exact absent.not.trans (Option.ne_none_iff_isSome.trans finished.isSome_l2_iff)

/-- A cache is built as it is requested for its level. -/
theorem exists_configure_of_mem {level : ClusterLevel} {cache : Cache}
    (member : cache ∈ cluster.cachesAt level) :
    ∃ preset baseline, request.model.cachePresets.preset? level = some preset ∧
      cache = (preset.configure (request.caches.request level) baseline).cache := by
  have built : ∀ core ∈ cluster.cores, ∀ caches, core.caches = some caches →
      PrivateCaches.build? request.model request.model.cachePresets request.caches =
        some caches := by
    intro core among caches present
    rw [finished.caches_eq among] at present
    split at present
    · exact present
    · cases present
  cases level with
  | l1i =>
      obtain ⟨core, among, found⟩ := List.mem_filterMap.mp member
      obtain ⟨caches, present, rfl⟩ := Option.map_eq_some_iff.mp found
      obtain ⟨preset, -, given, -, made, -⟩ :=
        Cache.exists_configure_of_build (built core among caches present)
      exact ⟨preset, _, given, made⟩
  | l1d =>
      obtain ⟨core, among, found⟩ := List.mem_filterMap.mp member
      obtain ⟨caches, present, rfl⟩ := Option.map_eq_some_iff.mp found
      obtain ⟨-, preset, -, given, -, made⟩ :=
        Cache.exists_configure_of_build (built core among caches present)
      exact ⟨preset, _, given, made⟩
  | l2 =>
      have present : cluster.l2 = some cache := Option.mem_toList.mp member
      rw [finished.l2_eq] at present
      split at present
      · obtain ⟨configured, second, rfl⟩ := Option.map_eq_some_iff.mp present
        rw [Cache.buildL2?] at second
        split at second
        · obtain ⟨preset, given, rfl⟩ := Option.map_eq_some_iff.mp second
          exact ⟨preset, _, given, rfl⟩
        · cases second
      · cases present

end IsFinishedFrom

end Cluster

/-- The place of a level in the hierarchy. -/
def CacheLevel.rank : CacheLevel → Nat
  | l1i => 0
  | l1d => 1
  | walk => 2
  | l2 => 3
  | l3 => 4
  | io => 5

def PolicyParameter.rank : PolicyParameter → Nat
  | preserveWays => 0
  | flushPeriodCycles => 1
  | bypassProbability => 2

/-- The order in a cluster: by level, and then by parameter. -/
def PrecedesInCluster : CacheLevel × PolicyMismatch → CacheLevel × PolicyMismatch → Prop :=
  Prod.Lex (fun one other => one.rank < other.rank)
    fun one other => one.parameter.rank < other.parameter.rank

/-- The order in a machine: by cluster, and then as in a cluster. -/
def PrecedesInMachine :
    Nat × CacheLevel × PolicyMismatch → Nat × CacheLevel × PolicyMismatch → Prop :=
  Prod.Lex (· < ·) PrecedesInCluster

theorem PrecedesInMachine.ne {one other : Nat × CacheLevel × PolicyMismatch}
    (precedes : PrecedesInMachine one other) : one ≠ other := by
  rintro rfl
  simp [PrecedesInMachine, PrecedesInCluster, Prod.lex_def] at precedes

theorem CacheRequest.pairwise_reports (request : CacheRequest) (level : CacheLevel) :
    (request.reports level).Pairwise PrecedesInCluster := by
  have ordered : PolicyChoice.reported.Pairwise fun one other => one.rank < other.rank := by
    decide
  exact List.pairwise_map.mpr ((ordered.filter _).imp fun before => .right level before)

theorem HierarchyRequest.pairwise_reports (requests : HierarchyRequest) (model : CoreModel)
    (levels : Nat) : (requests.reports model levels).Pairwise PrecedesInCluster := by
  have ordered : ClusterLevel.all.Pairwise fun one other => one.level.rank < other.level.rank := by
    decide
  refine List.pairwise_flatMap.mpr ⟨fun level _ => CacheRequest.pairwise_reports .., ?_⟩
  refine (ordered.filter _).imp fun before one first other second => ?_
  obtain ⟨_, -, rfl⟩ := List.mem_map.mp first
  obtain ⟨_, -, rfl⟩ := List.mem_map.mp second
  exact .left _ _ before

/-- Of the parameters that are given for a level of a cluster, its policy carries those that are not
reported, and those that it does not carry are reported once. -/
def Topology.AccountsFor (topology : Topology) (index : Nat) (level : ClusterLevel)
    (request : CacheRequest) (ways : UInt32) (policy : Policy) : Prop :=
  ∀ parameter, request.parameters.gives parameter →
    (policy.Carries ways request.parameters parameter ∧
        topology.ignored.count (index, level.level, ⟨request.kind, parameter⟩) = 0) ∨
      (¬ policy.Carries ways request.parameters parameter ∧
        topology.ignored.count (index, level.level, ⟨request.kind, parameter⟩) = 1)

namespace Configuration

variable {configuration : Configuration} {topology : Topology}

/-- What a machine reports, read off its configuration. -/
theorem ignored_of_topology (accepted : configuration.topology = .ok topology) :
    topology.ignored = configuration.clusters.zipIdx.flatMap fun entry =>
      (entry.1.caches.reports entry.1.model
        (builtLevels configuration.depth configuration.cachesEnabled)).map (entry.2, ·) := by
  have views : (configuration.clusterRequests.zipIdx.map fun entry =>
      (entry.1.caches.reports entry.1.model
        (builtLevels configuration.depth configuration.cachesEnabled)).map (entry.2, ·)) =
      topology.clusters.map fun cluster => cluster.ignored.map (cluster.index, ·) :=
    (clusters_of_topology accepted).map_eq_map fun entry cluster finished => by
      rw [finished.ignored_eq, finished.index_eq]
  rw [clusterRequests, List.zipIdx_map, List.map_map] at views
  exact congrArg List.flatten views.symm

theorem pairwise_ignored (accepted : configuration.topology = .ok topology) :
    topology.ignored.Pairwise PrecedesInMachine := by
  rw [ignored_of_topology accepted]
  have ordered : configuration.clusters.zipIdx.Pairwise fun one other => one.2 < other.2 := by
    rw [← List.pairwise_map (f := Prod.snd), List.zipIdx_map_snd]
    exact List.pairwise_lt_range'
  refine List.pairwise_flatMap.mpr ⟨fun entry _ => ?_, ordered.imp ?_⟩
  · refine List.pairwise_map.mpr ?_
    exact (HierarchyRequest.pairwise_reports _ _ _).imp fun before => .right _ before
  · intro one other before entry first later second
    obtain ⟨_, -, rfl⟩ := List.mem_map.mp first
    obtain ⟨_, -, rfl⟩ := List.mem_map.mp second
    exact .left _ _ before

theorem mem_ignored_iff (accepted : configuration.topology = .ok topology)
    {entry : Nat × CacheLevel × PolicyMismatch} :
    entry ∈ topology.ignored ↔ ∃ index configured,
      configuration.clusters[index]? = some configured ∧
      ∃ level ∈ configured.model.cachedLevels
          (builtLevels configuration.depth configuration.cachesEnabled),
        ∃ parameter ∈ (configured.caches.request level).untaken,
          entry = (index, level.level, ⟨(configured.caches.request level).kind, parameter⟩) := by
  rw [ignored_of_topology accepted]
  constructor
  · intro member
    obtain ⟨⟨configured, index⟩, listed, inside⟩ := List.mem_flatMap.mp member
    obtain ⟨report, reported, rfl⟩ := List.mem_map.mp inside
    obtain ⟨level, built, given⟩ := List.mem_flatMap.mp reported
    obtain ⟨parameter, untaken, rfl⟩ := List.mem_map.mp given
    exact ⟨index, configured, List.mem_zipIdx_iff_getElem?.mp listed, level, built, parameter,
      untaken, rfl⟩
  · rintro ⟨index, configured, found, level, built, parameter, untaken, rfl⟩
    have reported : (level.level, ⟨(configured.caches.request level).kind, parameter⟩) ∈
        configured.caches.reports configured.model
          (builtLevels configuration.depth configuration.cachesEnabled) :=
      List.mem_flatMap.mpr ⟨level, built, List.mem_map_of_mem untaken⟩
    exact List.mem_flatMap.mpr ⟨(configured, index), List.mem_zipIdx_iff_getElem?.mpr found,
      List.mem_map_of_mem reported⟩

/-- A parameter is reported just if it is untaken and its level is built. -/
theorem report_mem_ignored_iff (accepted : configuration.topology = .ok topology) {index : Nat}
    {configured : ClusterConfiguration} (found : configuration.clusters[index]? = some configured)
    {level : ClusterLevel} {parameter : PolicyParameter} :
    (index, level.level, ⟨(configured.caches.request level).kind, parameter⟩) ∈ topology.ignored ↔
      level ∈ configured.model.cachedLevels
          (builtLevels configuration.depth configuration.cachesEnabled) ∧
        parameter ∈ (configured.caches.request level).untaken := by
  rw [mem_ignored_iff accepted]
  constructor
  · rintro ⟨place, other, also, otherLevel, built, given, untaken, same⟩
    simp only [Prod.mk.injEq, PolicyMismatch.mk.injEq] at same
    obtain ⟨rfl, levels, -, rfl⟩ := same
    obtain rfl := Option.some.inj (found.symm.trans also)
    obtain rfl := ClusterLevel.level_injective levels
    exact ⟨built, untaken⟩
  · rintro ⟨built, untaken⟩
    exact ⟨index, configured, found, level, built, parameter, untaken, rfl⟩

/-- A policy accounts for what its kind takes, and the reports for the rest. -/
theorem accountsFor_ofKind (accepted : configuration.topology = .ok topology) {index : Nat}
    {configured : ClusterConfiguration} (found : configuration.clusters[index]? = some configured)
    {level : ClusterLevel} (built : level ∈ configured.model.cachedLevels
      (builtLevels configuration.depth configuration.cachesEnabled)) (ways : UInt32) :
    topology.AccountsFor index level (configured.caches.request level) ways
      (.ofKind (configured.caches.request level).kind ways
        (configured.caches.request level).parameters) := by
  intro parameter given
  rw [Policy.carries_ofKind_iff]
  have reported : (index, level.level, ⟨(configured.caches.request level).kind, parameter⟩) ∈
      topology.ignored ↔ _ := report_mem_ignored_iff accepted found
  rw [CacheRequest.mem_untaken_iff] at reported
  cases takes : (configured.caches.request level).kind.takes parameter with
  | true =>
      refine .inl ⟨⟨given, rfl⟩, List.count_eq_zero.mpr fun member => ?_⟩
      rw [(reported.mp member).2.2] at takes
      cases takes
  | false =>
      refine .inr ⟨by simp, ?_⟩
      exact List.count_eq_one_of_mem ((pairwise_ignored accepted).imp PrecedesInMachine.ne)
        (reported.mpr ⟨built, given, takes⟩)

/-- Every parameter that is given for a level with caches is carried by their policy, of the kind
that is requested, or it is reported once.  Nothing else is reported, reports are ordered, and they
depend on the models and the requests of the clusters, but not on their numbers of cores. -/
theorem carries_or_reports_parameters (accepted : configuration.topology = .ok topology) :
    (∀ index configured cluster, configuration.clusters[index]? = some configured →
      topology.clusters[index]? = some cluster → ∀ level, ∀ cache ∈ cluster.cachesAt level,
        cache.policy.kind = (configured.caches.request level).kind ∧
        ∃ preset, configured.model.cachePresets.preset? level = some preset ∧
          topology.AccountsFor index level (configured.caches.request level)
            ((configured.caches.request level).ways.getD preset.ways) cache.policy) ∧
      (∀ entry ∈ topology.ignored, ∃ index configured cluster,
        configuration.clusters[index]? = some configured ∧
        topology.clusters[index]? = some cluster ∧
        ∃ level parameter, cluster.cachesAt level ≠ [] ∧
          (configured.caches.request level).parameters.gives parameter ∧
          entry = (index, level.level, ⟨(configured.caches.request level).kind, parameter⟩)) ∧
      topology.ignored.Pairwise PrecedesInMachine ∧
      ∀ (other : Configuration) otherTopology, other.topology = .ok otherTopology →
        other.depth = configuration.depth → other.cachesEnabled = configuration.cachesEnabled →
        (other.clusters.map fun configured => (configured.model, configured.caches)) =
          configuration.clusters.map (fun configured => (configured.model, configured.caches)) →
        otherTopology.ignored = topology.ignored := by
  have ordered := pairwise_ignored accepted
  refine ⟨?_, ?_, ordered, ?_⟩
  · intro index configured cluster found paired level cache member
    obtain ⟨_, same, finished⟩ := finished_of_getElem? accepted found
    obtain rfl := Option.some.inj (paired.symm.trans same)
    have built := finished.cachesAt_ne_nil_iff.mp (List.ne_nil_of_mem member)
    obtain ⟨preset, baseline, given, rfl⟩ := finished.exists_configure_of_mem member
    rw [Cache.policy_configure]
    exact ⟨Policy.kind_ofKind .., preset, given, accountsFor_ofKind accepted found built _⟩
  · intro entry member
    obtain ⟨index, configured, found, level, built, parameter, untaken, rfl⟩ :=
      (mem_ignored_iff accepted).mp member
    obtain ⟨cluster, paired, finished⟩ := finished_of_getElem? accepted found
    exact ⟨index, configured, cluster, found, paired, level, parameter,
      finished.cachesAt_ne_nil_iff.mpr built, (CacheRequest.mem_untaken_iff.mp untaken).1, rfl⟩
  · intro other otherTopology also depth enabled same
    rw [ignored_of_topology also, ignored_of_topology accepted, depth, enabled]
    -- What is reported of a cluster is a function of its model, its requests and its index.
    have views : ∀ clusters : List ClusterConfiguration,
        (clusters.zipIdx.flatMap fun entry => (entry.1.caches.reports entry.1.model
          (builtLevels configuration.depth configuration.cachesEnabled)).map (entry.2, ·)) =
        (clusters.map fun configured => (configured.model, configured.caches)).zipIdx.flatMap
          fun entry => (entry.1.2.reports entry.1.1
            (builtLevels configuration.depth configuration.cachesEnabled)).map (entry.2, ·) := by
      intro clusters
      rw [List.zipIdx_map, List.flatMap_map]
      rfl
    rw [views, same, ← views]

/-- A bimodal policy with a probability that is too high, and with ways to preserve, which it does
not take. -/
def bimodalRequest : CacheRequest where
  policy := some .bip
  parameters := { preserveWays := some 2, bypassProbability := some 120 }

/-- Two cores with such instruction caches. -/
def bimodal : Configuration where
  clusters := [{ cores := 2, model := .timing, caches.l1i := bimodalRequest }]

/-- Both caches hold the probability at 100, and the ways are reported once. -/
theorem carries_or_reports_parameters_bimodal :
    ∃ (topology : Topology) (cache : Cache), bimodal.topology = .ok topology ∧
      cache.policy = .bip 100 ∧ topology.ignored = [(0, .l1i, ⟨.bip, .preserveWays⟩)] ∧
      topology.ignored.Pairwise PrecedesInMachine ∧
      ∃ ways, topology.AccountsFor 0 .l1i bimodalRequest ways cache.policy := by
  have composed : ∃ (topology : Topology) (cluster : Cluster) (cache : Cache),
      bimodal.topology = .ok topology ∧ topology.clusters[0]? = some cluster ∧
      cluster.cachesAt .l1i = [cache, cache] ∧ cache.policy = .bip 100 ∧
      topology.ignored = [(0, .l1i, ⟨.bip, .preserveWays⟩)] :=
    ⟨_, _, _, rfl, rfl, rfl, rfl, rfl⟩
  obtain ⟨topology, cluster, cache, accepted, found, built, policy, reported⟩ := composed
  obtain ⟨kept, -, ordered, -⟩ := carries_or_reports_parameters accepted
  obtain ⟨-, preset, -, accounts⟩ := kept 0 _ cluster rfl found .l1i cache (by simp [built])
  exact ⟨topology, cache, accepted, policy, reported, ordered, _, accounts⟩

end Configuration

end Mainboard
