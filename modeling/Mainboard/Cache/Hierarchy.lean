import Mainboard.Cache.Basic

/-!
# Building a cluster's caches

Requests lay a policy, a size and a number of ways over the presets of a core
model.  The size and the ways come first and the policy is chosen for the ways
that result; the oracle baseline, where a policy or the analysis of a whole
cluster asks for it, then replaces the geometry.
-/

namespace Mainboard

/-- What is asked of one level. -/
structure CacheRequest where
  policy : Option PolicyKind := none
  parameters : PolicyParameters := {}
  size : Option ByteSize := none
  ways : Option UInt32 := none
  deriving DecidableEq

def CacheRequest.uses (request : CacheRequest) (kind : PolicyKind) : Bool :=
  request.policy = some kind

/-- What is asked of the caches of a cluster. -/
structure HierarchyRequest where
  l1i : CacheRequest := {}
  l1d : CacheRequest := {}
  l2 : CacheRequest := {}
  /-- Whether the instruction cache and the second level are on the oracle baseline. -/
  analysis : Bool := false
  deriving DecidableEq

def HierarchyRequest.usesEmissary (requests : HierarchyRequest) : Bool :=
  requests.l1i.uses .emissaryLru || requests.l2.uses .emissaryLru

/-- A cache with the policy parameters that were ignored in building it. -/
structure ConfiguredCache where
  cache : Cache
  ignored : List PolicyMismatch
  deriving DecidableEq

def ConfiguredCache.tagged (configured : ConfiguredCache) : List (CacheLevel × PolicyMismatch) :=
  configured.ignored.map fun mismatch => (configured.cache.level, mismatch)

def Cache.configure (preset : Cache) (request : CacheRequest) (baseline : Bool) :
    ConfiguredCache :=
  let ways := request.ways.getD preset.ways
  let choice := PolicyChoice.ofKind (request.policy.getD .lru) ways request.parameters
  let cache :=
    { preset with size := request.size.getD preset.size, ways, policy := choice.policy }
  { cache := if baseline || choice.baseline then cache.onBaseline else cache
    ignored := choice.ignored }

/-- The ways in which a core reaches memory. -/
inductive Stream
  | fetch
  | data
  | fetchWalk
  | dataWalk
  deriving DecidableEq

namespace Stream

/-- Every stream, in the order in which streams are wired. -/
def all : List Stream := [fetch, data, fetchWalk, dataWalk]

def outlet : Stream → String
  | fetch => "icache_port"
  | data => "dcache_port"
  | fetchWalk => "mmu.itb_walker"
  | dataWalk => "mmu.dtb_walker"

def cacheName : Stream → String
  | fetch => "icache"
  | data => "dcache"
  | fetchWalk => "itb_walker_cache"
  | dataWalk => "dtb_walker_cache"

end Stream

/-- The private caches of one core. -/
structure PrivateCaches where
  icache : Cache
  dcache : Cache
  fetchWalk : Option Cache
  dataWalk : Option Cache
  ignored : List (CacheLevel × PolicyMismatch)
  deriving DecidableEq

namespace PrivateCaches

/-- The private cache of a stream, if the core has one. -/
def at? (caches : PrivateCaches) : Stream → Option Cache
  | .fetch => some caches.icache
  | .data => some caches.dcache
  | .fetchWalk => caches.fetchWalk
  | .dataWalk => caches.dataWalk

/-- The private caches of a core of some model; none if the model bypasses the
hierarchy or lacks a preset.  Walker caches are as their preset says and are
built only for models that cache walks. -/
def build? (model : CoreModel) (presets : CachePresets) (requests : HierarchyRequest) :
    Option PrivateCaches :=
  if model.requiresCaches then
    match presets.l1i, presets.l1d with
    | some l1i, some l1d =>
        let icache := l1i.configure requests.l1i requests.analysis
        let dcache := l1d.configure requests.l1d false
        let walk := if model.cachesWalks then presets.walk else none
        some
          { icache := icache.cache
            dcache := dcache.cache
            fetchWalk := walk
            dataWalk := walk
            ignored := icache.tagged ++ dcache.tagged }
    | _, _ => none
  else none

end PrivateCaches

namespace Cache

/-- The second level of a cluster.  The oracle policy on the instruction cache
puts it on the baseline too, as the analysis of the whole cluster does. -/
def buildL2? (model : CoreModel) (presets : CachePresets) (requests : HierarchyRequest) :
    Option ConfiguredCache :=
  if model.requiresCaches then
    presets.l2.map fun preset =>
      preset.configure requests.l2 (requests.analysis || requests.l1i.uses .opt)
  else none

def buildL3 (clock : Frequency) : Cache := { sharedL3 with clock := some clock }

end Cache

end Mainboard
