import Mainboard.Cache.Hierarchy
import Mainboard.CoreFeatures
import Mainboard.Quantity.Voltage

/-!
# Clusters of cores

A cluster is a row of equal cores under one clock and one voltage.  Objects
are named by their place: the cluster by its index, and each core by its
cluster and its place in the row.
-/

namespace Mainboard

/-- An interrupt line of a performance monitor. -/
inductive InterruptLine
  /-- A line of the core itself. -/
  | ppi (number : UInt32)
  /-- A line shared by all cores. -/
  | spi (number : UInt32)
  deriving DecidableEq

namespace InterruptLine

/-- The line of an interrupt number; shared lines start at 32. -/
def ofNumber (number : UInt32) : InterruptLine :=
  if number < 32 then ppi number else spi number

def number : InterruptLine → UInt32
  | ppi number | spi number => number

end InterruptLine

/-- What the architectural events of a monitor are counted at. -/
inductive EventSource
  | core
  | itb
  | dtb
  | icache
  | dcache
  | l2
  deriving DecidableEq

def EventSource.name : EventSource → String
  | core => "core"
  | itb => "itb"
  | dtb => "dtb"
  | icache => "icache"
  | dcache => "dcache"
  | l2 => "l2"

/-- The performance monitor of one core. -/
structure Monitor where
  interrupt : InterruptLine
  sources : List EventSource
  events : List String
  deriving DecidableEq

/-- The monitors asked for: an interrupt for each core, and the same events for all. -/
structure MonitorRequest where
  interrupts : List UInt32 := []
  events : List String := []
  deriving DecidableEq

/-- One core. -/
structure Core where
  path : String
  id : Nat
  socket : Nat
  threads : UInt32
  interruptController : String
  interruptControllerAddress : Option UInt64
  caches : Option PrivateCaches := none
  settings : Option OutOfOrderSettings := none
  monitor : Option Monitor := none
  deriving DecidableEq

/-- A cluster of equal cores. -/
structure Cluster where
  index : Nat
  model : CoreModel
  clock : Frequency
  voltage : Voltage
  cores : List Core
  presets : CachePresets
  requests : HierarchyRequest
  l2 : Option Cache := none
  monitors : Option MonitorRequest := none
  ignored : List (CacheLevel × PolicyMismatch) := []
  deriving DecidableEq

namespace Cluster

def nameAt (index : Nat) : String := "cpu_cluster" ++ toString index

def corePath (index place : Nat) : String := nameAt index ++ ".cpus" ++ toString place

def name (cluster : Cluster) : String := nameAt cluster.index

def l2Bus (cluster : Cluster) : String := cluster.name ++ ".toL2Bus"

end Cluster

/-- What is asked of one cluster. -/
structure ClusterRequest where
  coreCount : Nat
  clock : Frequency
  voltage : Voltage := .standard
  model : CoreModel
  caches : HierarchyRequest := {}
  features : CoreFeatures := {}
  warmupInstructions : Option UInt64 := none
  threads : UInt32 := 1
  monitors : Option MonitorRequest := none
  deriving DecidableEq

namespace ClusterRequest

def fastModelLimit : Nat := 4

/-- The settings of the cores that are asked for; only the detailed model has any. -/
def settings (request : ClusterRequest) : Except Error (Option OutOfOrderSettings) :=
  if request.model.isOutOfOrder then
    (request.features.resolve
      { warmupInstructions := request.warmupInstructions
        analysis := request.caches.analysis
        emissary := request.caches.usesEmissary }).map some
  else .ok none

/-- Checks what is asked for, in the order cores, threads, size of a
self-bridged cluster, features. -/
def check (request : ClusterRequest) : Except Error (Option OutOfOrderSettings) :=
  if request.coreCount = 0 then .error .emptyCluster
  else if request.threads = 0 then .error (.invalid .noThreads)
  else if request.model.isSelfBridged ∧ fastModelLimit < request.coreCount then
    .error (.invalid (.fastModelCores fastModelLimit request.coreCount))
  else request.settings

end ClusterRequest

end Mainboard
