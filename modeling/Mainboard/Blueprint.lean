import Mainboard.Cluster.Basic
import Mainboard.Interconnect
import Mainboard.Platform

/-!
# Blueprints

A machine under composition: its memory is allocated and its buses exist, and
clusters are added one after another.  A cluster that cannot be added leaves
the blueprint as it was.
-/

namespace Mainboard

/-- A machine under composition. -/
structure Blueprint where
  platform : Platform
  memorySize : ByteSize
  memoryMode : MemoryMode
  memoryRanges : List AddressRange
  interconnect : Interconnect
  clusters : List Cluster := []
  /-- The cores of the clusters so far, from which those of the next are numbered on. -/
  coreCount : Nat := 0
  deriving DecidableEq

namespace Blueprint

/-- Starts a machine.  Devices reach memory through a cache, if they are to
have one, and else through a bridge. -/
def start (platform : Platform) (memorySize : ByteSize) (memoryMode : MemoryMode)
    (deviceCache : Bool) : Except Error Blueprint :=
  (Memory.allocate memorySize.bytes platform.regions).map fun ranges =>
    { platform, memorySize, memoryMode
      memoryRanges := ranges
      interconnect := .base ranges (if deviceCache then some .device else none) }

def nextCore (blueprint : Blueprint) (request : ClusterRequest)
    (settings : Option OutOfOrderSettings) (place : Nat) : Core :=
  let index := blueprint.clusters.length
  { path := Cluster.corePath index place
    id := blueprint.coreCount + place
    socket := index
    threads := request.threads
    interruptController := Cluster.corePath index place ++ ".interrupts"
    interruptControllerAddress := blueprint.platform.interruptControllerAddress
    settings }

def nextCluster (blueprint : Blueprint) (request : ClusterRequest)
    (settings : Option OutOfOrderSettings) : Cluster where
  index := blueprint.clusters.length
  model := request.model
  clock := request.clock
  voltage := request.voltage
  cores := (List.range request.coreCount).map (blueprint.nextCore request settings)
  presets := request.model.cachePresets
  requests := request.caches
  monitors := request.monitors

/-- Takes a cluster in, and counts its cores. -/
def register (blueprint : Blueprint) (cluster : Cluster) : Nat × Blueprint :=
  (blueprint.clusters.length,
    { blueprint with
      clusters := blueprint.clusters ++ [cluster]
      coreCount := blueprint.coreCount + cluster.cores.length })

def addCluster (blueprint : Blueprint) (request : ClusterRequest) :
    Except Error (Nat × Blueprint) :=
  request.check.map fun settings => blueprint.register (blueprint.nextCluster request settings)

/-- Offers a cluster, which is added if it can be.  If it cannot, the blueprint
stays as it was. -/
def offer (blueprint : Blueprint) (request : ClusterRequest) : Except Error Nat × Blueprint :=
  match blueprint.addCluster request with
  | .ok (index, next) => (.ok index, next)
  | .error error => (.error error, blueprint)

/-- Adds clusters in order, up to the first that cannot be added. -/
def addClusters (blueprint : Blueprint) (requests : List ClusterRequest) :
    Except Error Blueprint :=
  requests.foldlM (fun current request => (current.addCluster request).map Prod.snd) blueprint

end Blueprint

end Mainboard
