import Mainboard.Proofs.Cache.Parameters

/-!
# The geometry of built caches

The caches of a cluster have the sizes and the ways that are asked for, each
level its own, and those of their presets where nothing is asked.  The oracle
baseline is the exception: the oracle policy puts its level there, the one of
the instruction cache the second level too, and the analysis of a cluster both
of these but never the data cache.  Nothing else of a preset changes besides
its policy, and walker caches do not change at all.
-/

namespace Mainboard

/-- The size and the ways of a level on the oracle baseline. -/
def ClusterLevel.oracle : ClusterLevel → ByteSize × UInt32
  | .l1i | .l1d => (.mib 1, 256)
  | .l2 => (.mib 2, 32)

/-- A level is to be on the oracle baseline. -/
def HierarchyRequest.AsksOracle (requests : HierarchyRequest) : ClusterLevel → Prop
  | .l1i => requests.analysis ∨ requests.l1i.uses .opt
  | .l1d => requests.l1d.uses .opt
  | .l2 => requests.analysis ∨ requests.l1i.uses .opt ∨ requests.l2.uses .opt

/-- A cache is what requests for a level make of a preset. -/
structure HierarchyRequest.Shapes (requests : HierarchyRequest) (level : ClusterLevel)
    (preset cache : Cache) : Prop where
  oracle : requests.AsksOracle level → (cache.size, cache.ways) = level.oracle
  size : ¬ requests.AsksOracle level → cache.size = (requests.request level).size.getD preset.size
  ways : ¬ requests.AsksOracle level → cache.ways = (requests.request level).ways.getD preset.ways
  rest : cache = { preset with size := cache.size, ways := cache.ways, policy := cache.policy }

theorem CacheRequest.usesBaseline_policy (request : CacheRequest) :
    (request.policy.getD .lru).usesBaseline = request.uses .opt := by
  cases asked : request.policy with
  | none => simp [uses, asked, PolicyKind.usesBaseline]
  | some kind => simp [uses, asked, PolicyKind.usesBaseline]

namespace Cache

variable {preset : Cache} {request : CacheRequest} {baseline : Bool}

theorem size_configure : (preset.configure request baseline).cache.size =
    if baseline || (request.policy.getD .lru).usesBaseline then (baselineGeometry preset.level).1
    else request.size.getD preset.size := by
  rw [configure]
  exact apply_ite Cache.size ..

/-- Nothing but the size, the ways and the policy of a preset is ever changed. -/
theorem configure_eq : (preset.configure request baseline).cache =
    { preset with
      size := (preset.configure request baseline).cache.size
      ways := (preset.configure request baseline).cache.ways
      policy := (preset.configure request baseline).cache.policy } := by
  rw [configure]
  dsimp only
  split <;> rfl

/-- What is made of a preset of the level, when it is forced onto the baseline exactly if the level
is to be there for another reason than its own policy. -/
theorem shapes_configure {requests : HierarchyRequest} (level : ClusterLevel)
    (fits : preset.level = level.level)
    (forced : requests.AsksOracle level ↔ baseline ∨ (requests.request level).uses .opt) :
    requests.Shapes level preset (preset.configure (requests.request level) baseline).cache := by
  have oracle : baselineGeometry preset.level = level.oracle := by
    rw [fits]
    cases level <;> rfl
  have size := @size_configure preset (requests.request level) baseline
  have ways := @ways_configure preset (requests.request level) baseline
  rw [CacheRequest.usesBaseline_policy, oracle] at size ways
  rw [← Bool.or_eq_true] at forced
  refine ⟨fun asked => ?_, fun free => ?_, fun free => ?_, configure_eq⟩
  · rw [size, ways, if_pos (forced.mp asked), if_pos (forced.mp asked)]
  · rw [size, if_neg (mt forced.mpr free)]
  · rw [ways, if_neg (mt forced.mpr free)]

end Cache

namespace CoreModel

variable {model : CoreModel}

/-- Every model with caches has a preset for each of them. -/
theorem exists_cachePresets_eq (timing : model.requiresCaches) :
    ∃ l1i l1d walk l2, model.cachePresets = ⟨some l1i, some l1d, some walk, some l2⟩ := by
  cases model with
  | timing | minor | hpi | outOfOrder => exact ⟨_, _, _, _, rfl⟩
  | atomic | kvm | fastModel => cases timing

/-- Of a model with caches all are built.  Each level is on the oracle baseline if it is to be
there, whatever size and ways are asked for, and otherwise has the size and the ways that are asked
of this level, or those of its preset.  All else but the policy is as in the preset, and walker
caches are the preset. -/
theorem builds_requested_geometry (timing : model.requiresCaches) (requests : HierarchyRequest) :
    ∃ l1i l1d walk l2 caches configured,
      model.cachePresets = ⟨some l1i, some l1d, some walk, some l2⟩ ∧
      PrivateCaches.build? model model.cachePresets requests = some caches ∧
      Cache.buildL2? model model.cachePresets requests = some configured ∧
      requests.Shapes .l1i l1i caches.icache ∧ requests.Shapes .l1d l1d caches.dcache ∧
      requests.Shapes .l2 l2 configured.cache ∧
      caches.fetchWalk = (if model.cachesWalks then some walk else none) ∧
      caches.dataWalk = (if model.cachesWalks then some walk else none) := by
  obtain ⟨l1i, l1d, walk, l2, presets⟩ := exists_cachePresets_eq timing
  have fits : ∀ (level : ClusterLevel) (preset : Cache),
      model.cachePresets.preset? level = some preset → preset.level = level.level :=
    fun _ _ => level_of_preset?
  rw [presets] at fits
  obtain ⟨caches, built, icache, dcache, fetchWalk, dataWalk⟩ : ∃ caches,
      PrivateCaches.build? model ⟨some l1i, some l1d, some walk, some l2⟩ requests = some caches ∧
      caches.icache = (l1i.configure requests.l1i requests.analysis).cache ∧
      caches.dcache = (l1d.configure requests.l1d false).cache ∧
      caches.fetchWalk = (if model.cachesWalks then some walk else none) ∧
      caches.dataWalk = (if model.cachesWalks then some walk else none) :=
    ⟨_, if_pos timing, rfl, rfl, rfl, rfl⟩
  have builtL2 : Cache.buildL2? model ⟨some l1i, some l1d, some walk, some l2⟩ requests =
      some (l2.configure requests.l2 (requests.analysis || requests.l1i.uses .opt)) :=
    if_pos timing
  refine ⟨l1i, l1d, walk, l2, caches, _, presets, presets ▸ built, presets ▸ builtL2, ?_, ?_, ?_,
    fetchWalk, dataWalk⟩
  · rw [icache]
    exact Cache.shapes_configure .l1i (fits .l1i l1i rfl) Iff.rfl
  · rw [dcache]
    exact Cache.shapes_configure .l1d (fits .l1d l1d rfl)
      (by simp [HierarchyRequest.AsksOracle, HierarchyRequest.request])
  · exact Cache.shapes_configure .l2 (fits .l2 l2 rfl)
      (by simp [HierarchyRequest.AsksOracle, HierarchyRequest.request, or_assoc])

/-- Requests for an oracle instruction cache, with sizes and ways for the other two levels. -/
def oracleInstructions : HierarchyRequest where
  l1i := { policy := some .opt, ways := some 4 }
  l1d := { size := some (.kib 16), ways := some 2 }
  l2 := { policy := some .bip, size := some (.kib 256), ways := some 8 }

/-- The oracle policy of the instruction cache overrides what is asked of the second level, and
leaves the data cache with what is asked of it. -/
theorem builds_requested_geometry_oracleInstructions :
    ∃ l1d l2 caches configured, CoreModel.hpi.cachePresets.l1d = some l1d ∧
      CoreModel.hpi.cachePresets.l2 = some l2 ∧
      PrivateCaches.build? .hpi CoreModel.hpi.cachePresets oracleInstructions = some caches ∧
      Cache.buildL2? .hpi CoreModel.hpi.cachePresets oracleInstructions = some configured ∧
      caches.icache.ways = 256 ∧
      caches.dcache = { l1d with size := .kib 16, ways := 2, policy := caches.dcache.policy } ∧
      (configured.cache.size, configured.cache.ways) = (.mib 2, 32) ∧
      configured.cache.missSlots = l2.missSlots := by
  obtain ⟨l1i, l1d, walk, l2, caches, configured, presets, built, builtL2, ⟨icache, -, -, -⟩,
      ⟨-, size, ways, rest⟩, ⟨second, -, -, others⟩, -, -⟩ :=
    builds_requested_geometry (show CoreModel.hpi.requiresCaches from rfl) oracleInstructions
  have free : ¬ oracleInstructions.AsksOracle .l1d := by
    intro asked
    cases asked
  refine ⟨l1d, l2, caches, configured, by rw [presets], by rw [presets], built, builtL2,
    congrArg Prod.snd (icache (.inr rfl)), ?_, second (.inr (.inl rfl)), ?_⟩
  · rw [size free, ways free] at rest
    exact rest
  · rw [others]

end CoreModel

end Mainboard
