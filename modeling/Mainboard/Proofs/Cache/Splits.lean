import Mathlib.Data.UInt
import Mainboard.Cache.Hierarchy

/-!
# How the ways of a cache are split

A policy that preserves lines splits the ways a cache is asked to have.  The
oracle baseline replaces the geometry afterwards, and then the split is one of
the ways that the cache really has only if the baseline has as many.  Analysis
puts caches on the baseline whatever their policy, and so does the oracle
policy of the instruction cache with the second level.
-/

namespace Mainboard

/-- Ways are split into preserved ways, six if none are asked for, and the others, of which there
is one if there is any. -/
structure IsSplit (ways : UInt32) (requested : Option UInt32) (preserved lru : UInt32) : Prop where
  covers : preserved.toNat + lru.toNat = ways.toNat
  keeps : 1 ≤ ways.toNat → 1 ≤ lru.toNat
  preserves : preserved.toNat = min (requested.getD 6).toNat (ways.toNat - 1)

namespace Policy

/-- The highest number of ways that can be preserved. -/
theorem toNat_ceiling (ways : UInt32) :
    (if ways = 0 then 0 else ways - 1).toNat = ways.toNat - 1 := by
  split
  next none => rw [none, UInt32.toNat_zero]
  next some =>
    have positive : 1 ≤ ways := by
      rw [UInt32.le_iff_toNat_le, UInt32.toNat_one]
      exact Nat.pos_of_ne_zero fun none => some (UInt32.toNat_inj.mp none)
    rw [UInt32.toNat_sub_of_le _ _ positive, UInt32.toNat_one]

theorem isSplit_of_splitWays {ways : UInt32} {requested : Option UInt32}
    {flushPeriod flush : Option UInt64} {preserved lru : UInt32}
    (split : splitWays ways requested flushPeriod = .emissaryLru preserved lru flush) :
    IsSplit ways requested preserved lru := by
  obtain ⟨rfl, rfl, -⟩ := Policy.emissaryLru.inj split
  have preserves := UInt32.toNat_min (requested.getD standardPreserveWays)
    (if ways = 0 then 0 else ways - 1)
  rw [toNat_ceiling] at preserves
  have rest := UInt32.toNat_sub_of_le ways
    (min (requested.getD standardPreserveWays) (if ways = 0 then 0 else ways - 1))
    (by rw [UInt32.le_iff_toNat_le]; omega)
  exact ⟨by omega, by omega, preserves⟩

theorem ofKind_eq_emissaryLru {kind : PolicyKind} {ways : UInt32} {parameters : PolicyParameters}
    {preserved lru : UInt32} {flush : Option UInt64}
    (chosen : ofKind kind ways parameters = .emissaryLru preserved lru flush) :
    kind = .emissaryLru ∧ IsSplit ways parameters.preserveWays preserved lru := by
  cases kind with
  | emissaryLru => exact ⟨rfl, isSplit_of_splitWays chosen⟩
  | lru | bip | sbip | lip | opt | mlpLinear => cases chosen

end Policy

namespace Cache

variable {preset : Cache} {request : CacheRequest} {baseline : Bool}

theorem policy_configure : (preset.configure request baseline).cache.policy =
    .ofKind (request.policy.getD .lru) (request.ways.getD preset.ways) request.parameters := by
  rw [configure]
  dsimp only
  split <;> rfl

theorem ways_configure : (preset.configure request baseline).cache.ways =
    if baseline || (request.policy.getD .lru).usesBaseline then (baselineGeometry preset.level).2
    else request.ways.getD preset.ways := by
  rw [configure]
  exact apply_ite Cache.ways ..

/-- A cache that is built for a cluster, the preset and the request it is built from, and whether
it is put on the oracle baseline for other reasons than its own policy. -/
inductive IsBuilt (model : CoreModel) (presets : CachePresets) (requests : HierarchyRequest) :
    Cache → CacheRequest → Bool → Cache → Prop
  | l1i {preset : Cache} {caches : PrivateCaches} (given : presets.l1i = some preset)
      (built : PrivateCaches.build? model presets requests = some caches) :
      IsBuilt model presets requests preset requests.l1i requests.analysis caches.icache
  | l1d {preset : Cache} {caches : PrivateCaches} (given : presets.l1d = some preset)
      (built : PrivateCaches.build? model presets requests = some caches) :
      IsBuilt model presets requests preset requests.l1d false caches.dcache
  | l2 {preset : Cache} {configured : ConfiguredCache} (given : presets.l2 = some preset)
      (built : buildL2? model presets requests = some configured) :
      IsBuilt model presets requests preset requests.l2
        (requests.analysis || requests.l1i.uses .opt) configured.cache

variable {model : CoreModel} {presets : CachePresets} {requests : HierarchyRequest}

/-- The private caches for instructions and data are configured from their presets. -/
theorem exists_configure_of_build {caches : PrivateCaches}
    (built : PrivateCaches.build? model presets requests = some caches) :
    ∃ l1i l1d, presets.l1i = some l1i ∧ presets.l1d = some l1d ∧
      caches.icache = (l1i.configure requests.l1i requests.analysis).cache ∧
      caches.dcache = (l1d.configure requests.l1d false).cache := by
  rw [PrivateCaches.build?] at built
  split at built
  · split at built
    next l1i l1d instructions data =>
      obtain rfl := Option.some.inj built
      exact ⟨l1i, l1d, instructions, data, rfl, rfl⟩
    next => cases built
  · cases built

theorem IsBuilt.eq_configure {cache : Cache}
    (built : IsBuilt model presets requests preset request baseline cache) :
    cache = (preset.configure request baseline).cache := by
  cases built with
  | l1i given built =>
      obtain ⟨l1i, l1d, instructions, -, made, -⟩ := exists_configure_of_build built
      obtain rfl := Option.some.inj (given.symm.trans instructions)
      exact made
  | l1d given built =>
      obtain ⟨l1i, l1d, -, data, -, made⟩ := exists_configure_of_build built
      obtain rfl := Option.some.inj (given.symm.trans data)
      exact made
  | l2 given built =>
      rw [buildL2?, given] at built
      split at built
      · exact congrArg ConfiguredCache.cache (Option.some.inj built).symm
      · cases built

/-- The split is always one of the ways that are asked for.  It is one of the ways that the cache
has unless the cache is on a baseline with another number of ways. -/
theorem splits_ways_asked_for {cache : Cache} {preserved lru : UInt32} {flush : Option UInt64}
    (built : IsBuilt model presets requests preset request baseline cache)
    (chosen : cache.policy = .emissaryLru preserved lru flush) :
    IsSplit (request.ways.getD preset.ways) request.parameters.preserveWays preserved lru ∧
      (IsSplit cache.ways request.parameters.preserveWays preserved lru ↔
        (baseline → request.ways.getD preset.ways = (baselineGeometry preset.level).2)) := by
  obtain rfl := built.eq_configure
  rw [policy_configure] at chosen
  obtain ⟨kind, asked⟩ := Policy.ofKind_eq_emissaryLru chosen
  refine ⟨asked, ?_⟩
  rw [ways_configure, kind]
  cases baseline with
  | false => simpa [PolicyKind.usesBaseline] using asked
  | true =>
      simp only [Bool.true_or, if_true, forall_const]
      refine ⟨fun split => ?_, fun same => same ▸ asked⟩
      exact UInt32.toNat_inj.mp (asked.covers.symm.trans split.covers)

/-- Requests for an instruction cache that preserves lines. -/
def preserving (analysis : Bool) : HierarchyRequest where
  l1i := { policy := some .emissaryLru }
  analysis

theorem isBuilt_preserving (analysis : Bool) :
    IsBuilt .outOfOrder .classic (preserving analysis) classicInstruction
      { policy := some .emissaryLru } analysis
      (classicInstruction.configure { policy := some .emissaryLru } analysis).cache := by
  have built : PrivateCaches.build? .outOfOrder .classic (preserving analysis) =
      some ⟨_, _, _, _, _⟩ := rfl
  exact .l1i rfl built

theorem splits_ways_asked_for_preserving :
    IsSplit (classicInstruction.configure { policy := some .emissaryLru } false).cache.ways none
      6 2 :=
  (splits_ways_asked_for (isBuilt_preserving false) rfl).2.mpr fun analysis => by cases analysis

/-- Under analysis six and two ways are a split of eight, but the cache has 256. -/
theorem not_isSplit_preserving :
    ∃ cache,
      IsBuilt .outOfOrder .classic (preserving true) classicInstruction
        { policy := some .emissaryLru } true cache ∧
      cache.policy = .emissaryLru 6 2 none ∧ cache.ways = 256 ∧
      ¬ IsSplit cache.ways none 6 2 := by
  refine ⟨_, isBuilt_preserving true, rfl, rfl, fun split => ?_⟩
  cases split.covers

end Cache

end Mainboard
