import Mainboard.Cluster.Basic
import Mainboard.Interconnect
import Mainboard.Platform

/-!
# Topologies

A machine that is wired and ready to be handed to an engine, and what can be
asked of it: its cores in the order of their numbers, its caches with the
paths of their objects, and the policy parameters that were ignored.
-/

namespace Mainboard

/-- A wired machine. -/
structure Topology where
  platform : Platform
  memoryMode : MemoryMode
  requestedMemory : ByteSize
  memoryRanges : List AddressRange
  clusters : List Cluster
  sharedL3 : Option Cache
  depth : UInt8
  cachesEnabled : Bool
  interconnect : Interconnect
  deriving DecidableEq

def Core.cacheInstances (core : Core) : List (String × Cache) :=
  match core.caches with
  | none => []
  | some caches =>
      Stream.all.filterMap fun stream =>
        (caches.at? stream).map fun cache => (core.path ++ "." ++ stream.cacheName, cache)

def Cluster.l2Path (cluster : Cluster) : String := cluster.name ++ ".l2"

def Cluster.cacheInstances (cluster : Cluster) : List (String × Cache) :=
  cluster.cores.flatMap Core.cacheInstances ++
    (cluster.l2.map fun cache => (cluster.l2Path, cache)).toList

namespace Topology

def l3Path : String := "l3"

/-- Every core, cluster by cluster. -/
def cores (topology : Topology) : List Core := topology.clusters.flatMap (·.cores)

def coreCount (topology : Topology) : Nat := topology.cores.length

def l2Count (topology : Topology) : Nat := topology.clusters.countP (·.l2.isSome)

def allocatedMemory (topology : Topology) : UInt64 := Memory.total topology.memoryRanges

def cacheInstances (topology : Topology) : List (String × Cache) :=
  topology.clusters.flatMap Cluster.cacheInstances ++
    (topology.sharedL3.map fun cache => (l3Path, cache)).toList

/-- The ignored policy parameters with the cluster and the level they were given for. -/
def ignored (topology : Topology) : List (Nat × CacheLevel × PolicyMismatch) :=
  topology.clusters.flatMap fun cluster =>
    cluster.ignored.map fun (level, mismatch) => (cluster.index, level, mismatch)

end Topology

end Mainboard
