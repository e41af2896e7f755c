import Mainboard.Topology.Basic

/-!
# Wiring

Every stream of a core leaves it at an outlet of its own.  If the stream has a
private cache the outlet leads into the cache, and what faces memory is the far
side of the cache.  What faces memory leads into the cluster's second level
through a crossbar, if there is one, and else to the bus that all clusters
share: the crossbar of the third level, or the memory bus.  A self-bridged
cluster is left alone.
-/

namespace Mainboard

namespace Core

def outlet (core : Core) (stream : Stream) : String := core.path ++ "." ++ stream.outlet

def cachePath (core : Core) (stream : Stream) : String := core.path ++ "." ++ stream.cacheName

def cacheAt? (core : Core) (stream : Stream) : Option Cache :=
  core.caches.bind (·.at? stream)

def privateLinks (core : Core) : List Link :=
  (Stream.all.filter fun stream => (core.cacheAt? stream).isSome).map fun stream =>
    ⟨core.outlet stream, core.cachePath stream ++ ".cpu_side"⟩

def outwardEnd (core : Core) (stream : Stream) : String :=
  if (core.cacheAt? stream).isSome then core.cachePath stream ++ ".mem_side"
  else core.outlet stream

def outwardLinks (core : Core) (bus : String) : List Link :=
  Stream.all.map fun stream => ⟨core.outwardEnd stream, Interconnect.respondingSide bus⟩

end Core

/-- The width of the crossbars in front of shared caches, in bytes. -/
def crossbarWidth : UInt32 := 64

namespace Cluster

def privateLinks (cluster : Cluster) : List Link := cluster.cores.flatMap Core.privateLinks

def l2Buses (cluster : Cluster) : List Bus :=
  if cluster.l2.isSome then
    [{ name := cluster.l2Bus, kind := .l2 crossbarWidth, clock := some cluster.clock }]
  else []

def l2Links (cluster : Cluster) : List Link :=
  if cluster.l2.isSome then
    cluster.cores.flatMap (·.outwardLinks cluster.l2Bus) ++
      [⟨Interconnect.requestingSide cluster.l2Bus, cluster.l2Path ++ ".cpu_side"⟩]
  else []

/-- The links from a cluster to the bus that all clusters share. -/
def memoryLinks (cluster : Cluster) (bus : String) : List Link :=
  if cluster.l2.isSome then
    [⟨cluster.l2Path ++ ".mem_side", Interconnect.respondingSide bus⟩]
  else if cluster.model.isSelfBridged then []
  else cluster.cores.flatMap (·.outwardLinks bus)

end Cluster

namespace Topology

def l3Buses (hasL3 : Bool) : List Bus :=
  if hasL3 then [{ name := Interconnect.l3Bus, kind := .l3 crossbarWidth }] else []

def l3Links (hasL3 : Bool) : List Link :=
  if hasL3 then
    [⟨Interconnect.requestingSide Interconnect.l3Bus, l3Path ++ ".cpu_side"⟩,
      ⟨l3Path ++ ".mem_side", Interconnect.respondingSide Interconnect.memoryBus⟩]
  else []

def sharedBus (hasL3 : Bool) : String :=
  if hasL3 then Interconnect.l3Bus else Interconnect.memoryBus

/-- The interconnect with the buses and the links of clusters whose caches are built. -/
def wire (interconnect : Interconnect) (clusters : List Cluster) (hasL3 : Bool) : Interconnect :=
  (interconnect.addBuses (clusters.flatMap Cluster.l2Buses ++ l3Buses hasL3)).addLinks
    (clusters.flatMap Cluster.privateLinks ++ clusters.flatMap Cluster.l2Links ++
      l3Links hasL3 ++ clusters.flatMap (·.memoryLinks (sharedBus hasL3)))

end Topology

end Mainboard
