import Mainboard.Blueprint
import Mainboard.Cluster.Monitoring
import Mainboard.Topology.Wiring

/-!
# Assembly

A blueprint becomes a topology: caches are built as deep as the hierarchy
goes, everything is wired, and monitors are attached to the cores that have
their caches by then.  Depth and clusters are checked before, and what every
topology must hold is checked once more at the end.
-/

namespace Mainboard

namespace Cluster

/-- Builds the private caches of every core.  What is ignored in that is reported of one core only,
the first that has any. -/
def withPrivateCaches (cluster : Cluster) : Cluster :=
  let cores := cluster.cores.map fun core =>
    { core with caches := PrivateCaches.build? cluster.model cluster.presets cluster.requests }
  { cluster with
    cores
    ignored := cluster.ignored ++ ((cores.findSome? (·.caches)).map (·.ignored)).getD [] }

def withL2 (cluster : Cluster) : Cluster :=
  match Cache.buildL2? cluster.model cluster.presets cluster.requests with
  | none => cluster
  | some configured =>
      { cluster with
        l2 := some configured.cache
        ignored := cluster.ignored ++ configured.tagged }

def withCaches (cluster : Cluster) (levels : Nat) : Cluster :=
  let first := if 1 ≤ levels then cluster.withPrivateCaches else cluster
  if 2 ≤ levels then first.withL2 else first

end Cluster

namespace Topology

/-- A hierarchy is one, two or three levels deep. -/
def checkDepth (depth : UInt8) : Except Error Unit :=
  if depth = 0 ∨ 3 < depth then .error (.invalidDepth depth) else .ok ()

def fastestClock : List Cluster → Frequency
  | [] => .standard
  | cluster :: clusters =>
      clusters.foldl (fun fastest next => fastest.faster next.clock) cluster.clock

def checkCluster (depth : UInt8) (cachesEnabled : Bool) (cluster : Cluster) :
    Except Error Unit :=
  if cluster.l2.isSome ∧ (depth < 2 ∨ cachesEnabled = false) then
    .error (.invalid (.unexpectedL2 cluster.index depth))
  else if (cluster.cores.any (·.caches.isSome) || cluster.l2.isSome) &&
      !cluster.model.requiresCaches then
    .error (.invalid (.cachesBypassed cluster.index))
  else .ok ()

/-- Checks what a finished machine holds: its ranges cover the memory that was
asked for, and its caches are those of its depth. -/
def check (topology : Topology) : Except Error Unit := do
  if topology.allocatedMemory ≠ topology.requestedMemory.bytes then
    throw (.invalid (.uncoveredMemory topology.allocatedMemory topology.requestedMemory.bytes))
  topology.clusters.forM (checkCluster topology.depth topology.cachesEnabled)
  if topology.sharedL3.isSome ≠ (topology.cachesEnabled && 2 < topology.depth) then
    throw (.invalid (.unexpectedL3 topology.depth))

end Topology

def builtLevels (depth : UInt8) (cachesEnabled : Bool) : Nat :=
  if cachesEnabled then depth.toNat else 0

def Blueprint.assemble (blueprint : Blueprint) (depth : UInt8) (cachesEnabled : Bool) :
    Except Error Topology := do
  Topology.checkDepth depth
  if blueprint.clusters.isEmpty then throw .noClusters
  let levels := builtLevels depth cachesEnabled
  let cached := blueprint.clusters.map (·.withCaches levels)
  let hasL3 : Bool := 3 ≤ levels
  let interconnect := Topology.wire blueprint.interconnect cached hasL3
  let clusters ← cached.mapM Cluster.addRequestedMonitors
  let topology : Topology :=
    { platform := blueprint.platform
      memoryMode := blueprint.memoryMode
      requestedMemory := blueprint.memorySize
      memoryRanges := blueprint.memoryRanges
      clusters
      sharedL3 :=
        if hasL3 then some (Cache.buildL3 (Topology.fastestClock blueprint.clusters)) else none
      depth
      cachesEnabled
      interconnect }
  topology.check
  return topology

end Mainboard
