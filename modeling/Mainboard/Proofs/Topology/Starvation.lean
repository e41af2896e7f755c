import Mainboard.Proofs.Topology.Ignored
import Mainboard.Proofs.Topology.Limits

/-!
# Starvation tracking and preserving caches

A core tracks starvation for a cache that preserves lines, its own for
instructions or the second level.  Whether it does is settled when its cluster
is composed, from what is requested of these caches.  They are built later, as
far as the depth goes and if any are.  So no preserving cache is left without
tracking, but a core may track for a cache that is not there.
-/

namespace Mainboard

theorem HierarchyRequest.usesEmissary_iff {requests : HierarchyRequest} :
    requests.usesEmissary ↔ requests.l1i.uses .emissaryLru ∨ requests.l2.uses .emissaryLru :=
  Bool.or_eq_true_iff

/-- Caches keep the kind of policy that is requested, on the baseline too. -/
theorem Cache.preserves_configure_iff {preset : Cache} {request : CacheRequest} {baseline : Bool} :
    (preset.configure request baseline).cache.policy.kind = .emissaryLru ↔
      request.uses .emissaryLru := by
  rw [policy_configure, Policy.kind_ofKind, CacheRequest.uses, decide_eq_true_iff]
  cases request.policy with
  | none => decide
  | some kind => simp

namespace Cluster

/-- A core's instruction cache or the second level of its cluster preserves lines. -/
def PreservesFor (cluster : Cluster) (core : Core) : Prop :=
  (∃ caches, core.caches = some caches ∧ caches.icache.policy.kind = .emissaryLru) ∨
    ∃ cache, cluster.l2 = some cache ∧ cache.policy.kind = .emissaryLru

namespace IsFinishedFrom

variable {cluster : Cluster} {request : ClusterRequest} {index levels : Nat}
variable (finished : cluster.IsFinishedFrom request index levels)
include finished

theorem preserves_iff_of_mem {level : ClusterLevel} {cache : Cache}
    (member : cache ∈ cluster.cachesAt level) :
    cache.policy.kind = .emissaryLru ↔ (request.caches.request level).uses .emissaryLru := by
  obtain ⟨preset, baseline, -, rfl⟩ := finished.exists_configure_of_mem member
  exact Cache.preserves_configure_iff

/-- Lines are preserved where that is requested of a level that is built. -/
theorem preservesFor_iff (timed : request.model.memoryMode = .timing) {core : Core}
    (member : core ∈ cluster.cores) : cluster.PreservesFor core ↔
      1 ≤ levels ∧ request.caches.l1i.uses .emissaryLru ∨
        2 ≤ levels ∧ request.caches.l2.uses .emissaryLru := by
  refine or_congr ?_ ?_
  · rw [← and_iff_left timed (a := 1 ≤ levels), ← finished.isSome_caches_iff member,
      Option.isSome_iff_exists, ← exists_and_right]
    refine exists_congr fun caches => and_congr_right fun present => ?_
    have built : caches.icache ∈ cluster.cachesAt .l1i :=
      List.mem_filterMap.mpr ⟨core, member, congrArg (Option.map (·.icache)) present⟩
    exact finished.preserves_iff_of_mem built
  · rw [← and_iff_left timed (a := 2 ≤ levels), ← finished.isSome_l2_iff,
      Option.isSome_iff_exists, ← exists_and_right]
    refine exists_congr fun cache => and_congr_right fun present => ?_
    have built : cache ∈ cluster.cachesAt .l2 := Option.mem_toList.mpr present
    exact finished.preserves_iff_of_mem built

end IsFinishedFrom

end Cluster

namespace Configuration

variable {configuration : Configuration} {topology : Topology}

/-- An out-of-order core tracks starvation if it is requested of its instruction cache or of the
second level that lines are preserved, and so it does for every cache that preserves them.  For a
core that tracks there is such a cache just if caches are built and, where the instruction cache is
not asked to preserve lines, a second level with them. -/
theorem starvation_tracks_requests (accepted : configuration.topology = .ok topology) :
    List.Forall₂
      (fun configured cluster => configured.model.isOutOfOrder → ∀ core ∈ cluster.cores,
        ∃ settings, core.settings = some settings ∧
          (settings.starvationEmissary ↔ configured.caches.l1i.uses .emissaryLru ∨
            configured.caches.l2.uses .emissaryLru) ∧
          (cluster.PreservesFor core → settings.starvationEmissary) ∧
          ((settings.starvationEmissary ↔ cluster.PreservesFor core) ↔
            (settings.starvationEmissary → configuration.cachesEnabled ∧
              (configured.caches.l1i.uses .emissaryLru ∨ 2 ≤ configuration.depth))))
      configuration.clusters topology.clusters := by
  have valid := configuration.exists_topology_iff.mp ⟨topology, accepted⟩
  refine (configured_clusters_of_topology accepted).imp fun configured cluster => ?_
  rintro ⟨index, finished⟩ detailed core member
  obtain ⟨settings, checked, all⟩ := finished.exists_settings
  obtain ⟨resolved, found, made⟩ := ClusterRequest.exists_resolve_of_check checked detailed
  have timed : configured.model.memoryMode = .timing := by
    rw [of_decide_eq_true detailed]
    rfl
  have preserved := finished.preservesFor_iff timed member
  rw [one_le_builtLevels_iff valid.depth, two_le_builtLevels_iff] at preserved
  have tracked : resolved.starvationEmissary ↔ configured.caches.l1i.uses .emissaryLru ∨
      configured.caches.l2.uses .emissaryLru := by
    obtain ⟨predictor, rfl⟩ := CoreFeatures.exists_eq_of_resolve made
    exact HierarchyRequest.usesEmissary_iff
  have tracks : cluster.PreservesFor core → resolved.starvationEmissary := fun preserves =>
    tracked.mpr ((preserved.mp preserves).imp And.right And.right)
  refine ⟨resolved, (all core member).trans found, tracked, tracks, ?_, ?_⟩
  · intro agrees tracking
    obtain ⟨enabled, first⟩ | ⟨⟨enabled, deep⟩, -⟩ := preserved.mp (agrees.mp tracking)
    · exact ⟨enabled, .inl first⟩
    · exact ⟨enabled, .inr deep⟩
  · refine fun built => ⟨fun tracking => preserved.mpr ?_, tracks⟩
    obtain ⟨enabled, first | deep⟩ := built tracking
    · exact .inl ⟨enabled, first⟩
    · exact (tracked.mp tracking).imp (⟨enabled, ·⟩) (⟨⟨enabled, deep⟩, ·⟩)

/-- A detailed core whose caches are requested to preserve lines. -/
def starved (l1i l2 : Option PolicyKind) (depth : UInt8) (cachesEnabled : Bool) :
    Configuration where
  depth
  cachesEnabled
  clusters :=
    [{ model := .outOfOrder, caches := { l1i := { policy := l1i }, l2 := { policy := l2 } } }]

/-- With two levels, tracking agrees with a second level that preserves lines. -/
theorem starvation_tracks_requests_starved :
    ∃ topology cluster core settings,
      (starved none (some .emissaryLru) 2 true).topology = .ok topology ∧
      topology.clusters[0]? = some cluster ∧ core ∈ cluster.cores ∧
      core.settings = some settings ∧ settings.starvationEmissary ∧ cluster.PreservesFor core := by
  have composed : ∃ topology cluster core,
      (starved none (some .emissaryLru) 2 true).topology = .ok topology ∧
      topology.clusters[0]? = some cluster ∧ cluster.cores[0]? = some core :=
    ⟨_, _, _, rfl, rfl, rfl⟩
  obtain ⟨topology, cluster, core, accepted, first, only⟩ := composed
  have given : (starved none (some .emissaryLru) 2 true).clusters[0]? =
      some { model := .outOfOrder, caches := { l2 := { policy := some .emissaryLru } } } := rfl
  obtain ⟨_, placed, tracks⟩ := (starvation_tracks_requests accepted).exists_getElem? given
  obtain rfl := Option.some.inj (first.symm.trans placed)
  have member := List.mem_of_getElem? only
  obtain ⟨settings, found, tracked, -, agrees⟩ := tracks rfl core member
  have tracking := tracked.mpr (.inr rfl)
  exact ⟨topology, cluster, core, settings, accepted, first, member, found, tracking,
    (agrees.mpr fun _ => ⟨rfl, .inr (by decide)⟩).mp tracking⟩

/-- With one level only, a core tracks starvation for a second level that is not built. -/
theorem not_preservesFor_starved :
    ∃ topology cluster core settings,
      (starved none (some .emissaryLru) 1 true).topology = .ok topology ∧
      topology.clusters[0]? = some cluster ∧ cluster.cores[0]? = some core ∧
      core.settings = some settings ∧ settings.starvationEmissary ∧
      ¬ cluster.PreservesFor core := by
  have composed : ∃ topology cluster core settings caches,
      (starved none (some .emissaryLru) 1 true).topology = .ok topology ∧
      topology.clusters[0]? = some cluster ∧ cluster.cores[0]? = some core ∧
      core.settings = some settings ∧ settings.starvationEmissary ∧
      core.caches = some caches ∧ caches.icache.policy.kind = .lru ∧ cluster.l2 = none :=
    ⟨_, _, _, _, _, rfl, rfl, rfl, rfl, rfl, rfl, rfl, rfl⟩
  obtain ⟨topology, cluster, core, settings, caches, accepted, first, only, found, tracking,
    present, kind, absent⟩ := composed
  refine ⟨topology, cluster, core, settings, accepted, first, only, found, tracking, ?_⟩
  rintro (⟨other, also, preserves⟩ | ⟨cache, also, -⟩)
  · obtain rfl := Option.some.inj (present.symm.trans also)
    rw [kind] at preserves
    cases preserves
  · rw [absent] at also
    cases also

end Configuration

end Mainboard
