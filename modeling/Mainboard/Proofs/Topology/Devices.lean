import Mainboard.Proofs.Memory.Addresses
import Mainboard.Proofs.Topology.Levels

/-!
# How devices reach memory

The memory mode and the path of the devices are settled by the models of the
clusters before any cluster is composed, and private caches are built when all
of them are.  Still the two agree: devices go through a cache just if some core
has private caches, and else over a bridge, in either case to the memory that
was allocated.  The order of the clusters does not matter.
-/

namespace Mainboard

namespace MemoryMode

variable {left right first : MemoryMode}

theorem combine_eq_timing_iff :
    left.combine right = .timing ↔ left = .timing ∨ right = .timing := by
  cases left <;> cases right <;> decide

theorem combine_eq_atomicNoncaching_iff : left.combine right = .atomicNoncaching ↔
    left = .atomicNoncaching ∧ right = .atomicNoncaching := by
  cases left <;> cases right <;> decide

variable {α : Type} {groups : List α} {mode : α → MemoryMode}

theorem foldl_combine_eq_timing_iff :
    groups.foldl (fun shared group => shared.combine (mode group)) first = .timing ↔
      first = .timing ∨ ∃ group ∈ groups, mode group = .timing := by
  induction groups generalizing first with
  | nil => simp
  | cons group groups ih =>
      rw [List.foldl_cons, ih, combine_eq_timing_iff, or_assoc]
      simp

theorem foldl_combine_eq_atomicNoncaching_iff :
    groups.foldl (fun shared group => shared.combine (mode group)) first = .atomicNoncaching ↔
      first = .atomicNoncaching ∧ ∀ group ∈ groups, mode group = .atomicNoncaching := by
  induction groups generalizing first with
  | nil => simp
  | cons group groups ih =>
      rw [List.foldl_cons, ih, combine_eq_atomicNoncaching_iff, and_assoc, List.forall_mem_cons]

end MemoryMode

/-- The mode that clusters of some models share: timed accesses if a model needs them, else atomic
ones if a model is atomic. -/
structure MemoryMode.IsShared (mode : MemoryMode) (models : List CoreModel) : Prop where
  timing : mode = .timing ↔ ∃ model ∈ models, model.memoryMode = .timing
  atomic : mode = .atomic ↔ (∀ model ∈ models, model.memoryMode ≠ .timing) ∧
    ∃ model ∈ models, model.memoryMode = .atomic
  atomicNoncaching : mode = .atomicNoncaching ↔
    ∀ model ∈ models, model.memoryMode = .atomicNoncaching

namespace MemoryMode.IsShared

variable {mode other : MemoryMode} {models others : List CoreModel}

theorem of_timing_of_noncaching
    (timing : mode = .timing ↔ ∃ model ∈ models, model.memoryMode = .timing)
    (atomicNoncaching : mode = .atomicNoncaching ↔
      ∀ model ∈ models, model.memoryMode = .atomicNoncaching) : mode.IsShared models := by
  refine ⟨timing, ?_, atomicNoncaching⟩
  constructor
  · rintro rfl
    have untimed : ∀ model ∈ models, model.memoryMode ≠ .timing := fun model member timed =>
      absurd (timing.mpr ⟨model, member, timed⟩) (by decide)
    refine ⟨untimed, ?_⟩
    by_contra! none
    refine absurd (atomicNoncaching.mpr fun model member => ?_) (by decide)
    cases access : model.memoryMode with
    | atomic => exact absurd access (none model member)
    | timing => exact absurd access (untimed model member)
    | atomicNoncaching => rfl
  · rintro ⟨untimed, model, member, access⟩
    cases mode with
    | atomic => rfl
    | timing =>
        obtain ⟨timed, among, needed⟩ := timing.mp rfl
        exact absurd needed (untimed timed among)
    | atomicNoncaching => rw [atomicNoncaching.mp rfl model member] at access; cases access

/-- Only one mode is shared by the clusters of some models. -/
theorem unique (shared : mode.IsShared models) (also : other.IsShared models) : mode = other := by
  cases mode with
  | atomic => exact (also.atomic.mpr (shared.atomic.mp rfl)).symm
  | timing => exact (also.timing.mpr (shared.timing.mp rfl)).symm
  | atomicNoncaching => exact (also.atomicNoncaching.mpr (shared.atomicNoncaching.mp rfl)).symm

theorem perm (shared : mode.IsShared models) (permuted : models.Perm others) :
    mode.IsShared others := by
  obtain ⟨timing, atomic, atomicNoncaching⟩ := shared
  simp only [permuted.mem_iff] at timing atomic atomicNoncaching
  exact ⟨timing, atomic, atomicNoncaching⟩

end MemoryMode.IsShared

namespace Configuration

variable {configuration : Configuration} {topology : Topology}

theorem isShared_memoryMode (configuration : Configuration) :
    configuration.memoryMode.IsShared (configuration.clusters.map (·.model)) := by
  apply MemoryMode.IsShared.of_timing_of_noncaching
  · rw [memoryMode, MemoryMode.foldl_combine_eq_timing_iff]
    simp
  · rw [memoryMode, MemoryMode.foldl_combine_eq_atomicNoncaching_iff]
    simp

theorem map_model_of_topology (accepted : configuration.topology = .ok topology) :
    topology.clusters.map (·.model) = configuration.clusters.map (·.model) := by
  rw [eq_comm]
  refine (configured_clusters_of_topology accepted).map_eq_map fun configured cluster => ?_
  rintro ⟨index, finished⟩
  exact finished.model_eq.symm

/-- Composition and assembly leave the memory and the path of the devices as they were begun. -/
theorem start_of_topology (accepted : configuration.topology = .ok topology) :
    topology.memoryMode = configuration.memoryMode ∧
      topology.interconnect.devicePath = .ofCache? topology.memoryRanges
        (if configuration.cachesEnabled ∧ configuration.memoryMode = .timing then some .device
        else none) := by
  obtain ⟨empty, blueprint, started, filled, assembled⟩ := topology_eq_ok accepted
  obtain ⟨clusters, -, rfl⟩ := Blueprint.finished_of_assemble assembled
  obtain ⟨_, _, rfl⟩ := Blueprint.exists_eq_of_addClusters filled
  obtain ⟨ranges, -, rfl⟩ := Except.map_eq_ok_iff.mp started
  refine ⟨rfl, ?_⟩
  simp [Blueprint.finished, Topology.wire, Interconnect.addLinks, Interconnect.addBuses,
    Interconnect.base]

/-- Some core has private caches just if caches are built and some model needs them. -/
theorem exists_caches_iff (accepted : configuration.topology = .ok topology) :
    (∃ core ∈ topology.cores, core.caches.isSome) ↔
      configuration.cachesEnabled ∧ configuration.memoryMode = .timing := by
  have valid := configuration.exists_topology_iff.mp ⟨topology, accepted⟩
  have timing : configuration.memoryMode = .timing ↔
      ∃ configured ∈ configuration.clusters, configured.model.memoryMode = .timing := by
    simpa using configuration.isShared_memoryMode.timing
  rw [timing]
  constructor
  · rintro ⟨core, member, cached⟩
    obtain ⟨cluster, among, inside⟩ := List.mem_flatMap.mp member
    obtain ⟨configured, given, index, finished⟩ :=
      (configured_clusters_of_topology accepted).exists_of_mem among
    obtain ⟨levels, timed⟩ := (finished.isSome_caches_iff inside).mp cached
    exact ⟨(one_le_builtLevels_iff valid.depth).mp levels, configured, given, timed⟩
  · rintro ⟨enabled, configured, given, timed⟩
    obtain ⟨index, found⟩ := List.getElem?_of_mem given
    obtain ⟨cluster, placed, finished⟩ := finished_of_getElem? accepted found
    obtain ⟨core, inside⟩ := List.exists_mem_of_ne_nil _ finished.cores_ne_nil
    refine ⟨core, List.mem_flatMap.mpr ⟨cluster, List.mem_of_getElem? placed, inside⟩, ?_⟩
    exact (finished.isSome_caches_iff inside).mpr
      ⟨(one_le_builtLevels_iff valid.depth).mpr enabled, timed⟩

/-- A configuration stays valid when its clusters change places. -/
theorem IsValid.perm (valid : configuration.IsValid) {clusters : List ClusterConfiguration}
    (permuted : clusters.Perm configuration.clusters) :
    { configuration with clusters }.IsValid where
  depth := valid.depth
  memory := valid.memory
  clusters cluster member := valid.clusters cluster (permuted.mem_iff.mp member)
  inhabited none := by
    obtain rfl : clusters = [] := none
    exact valid.inhabited permuted.nil_eq.symm
  monitors cluster member := valid.monitors cluster (permuted.mem_iff.mp member)

/-- Devices reach the memory of the machine through a cache just if some core has private caches,
and else over a bridge.  The memory mode is the one that the clusters share.  A machine with the
same clusters in another order has the same path and the same mode. -/
theorem devices_agree_with_cores (accepted : configuration.topology = .ok topology) :
    (topology.interconnect.devicePath = .cached .device topology.memoryRanges ↔
        ∃ core ∈ topology.cores, core.caches.isSome) ∧
      (topology.interconnect.devicePath =
          .bridged { name := "dmabridge", ranges := topology.memoryRanges } ↔
        ∀ core ∈ topology.cores, core.caches = none) ∧
      topology.memoryMode.IsShared (topology.clusters.map (·.model)) ∧
      ∀ clusters, clusters.Perm configuration.clusters →
        ∃ other, { configuration with clusters }.topology = .ok other ∧
          other.memoryMode = topology.memoryMode ∧
          other.interconnect.devicePath = topology.interconnect.devicePath := by
  obtain ⟨mode, path⟩ := start_of_topology accepted
  have cached := exists_caches_iff accepted
  have shared := configuration.isShared_memoryMode
  refine ⟨?_, ?_, ?_, fun clusters permuted => ?_⟩
  · rw [cached, path]
    split <;> simp [DevicePath.ofCache?, *]
  · have uncached : (∀ core ∈ topology.cores, core.caches = none) ↔
        ¬ ∃ core ∈ topology.cores, core.caches.isSome := by simp
    rw [uncached, cached, path]
    split <;> simp [DevicePath.ofCache?, *]
  · rw [mode, map_model_of_topology accepted]
    exact shared
  · have valid := configuration.exists_topology_iff.mp ⟨topology, accepted⟩
    obtain ⟨other, also⟩ := exists_topology_iff _ |>.mpr (valid.perm permuted)
    obtain ⟨otherMode, otherPath⟩ := start_of_topology also
    have same : ({ configuration with clusters } : Configuration).memoryMode =
        configuration.memoryMode :=
      ((isShared_memoryMode _).perm (permuted.map _)).unique shared
    have ranges := (allocate_of_topology accepted).2.symm.trans (allocate_of_topology also).2
    refine ⟨other, also, by rw [otherMode, same, mode], ?_⟩
    rw [otherPath, path, same, Except.ok.inj ranges]

/-- A machine with a cluster of a timed model among others, and with the clusters the other way
round. -/
theorem devices_agree_with_cores_mixed :
    ∃ topology other, mixed.topology = .ok topology ∧ topology.memoryMode = .timing ∧
      topology.interconnect.devicePath = .cached .device topology.memoryRanges ∧
      { mixed with clusters := mixed.clusters.reverse }.topology = .ok other ∧
      other.memoryMode = .timing := by
  have composed : ∃ topology core, mixed.topology = .ok topology ∧
      topology.cores[0]? = some core ∧ core.caches.isSome ∧ topology.memoryMode = .timing :=
    ⟨_, _, rfl, rfl, rfl, rfl⟩
  obtain ⟨topology, core, accepted, first, present, timed⟩ := composed
  obtain ⟨path, -, -, reordered⟩ := devices_agree_with_cores accepted
  obtain ⟨other, also, mode, -⟩ := reordered _ (List.reverse_perm mixed.clusters)
  exact ⟨topology, other, accepted, timed, path.mpr ⟨core, List.mem_of_getElem? first, present⟩,
    also, mode.trans timed⟩

end Configuration

end Mainboard
