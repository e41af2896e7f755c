import Mainboard.Blueprint
import Mainboard.Text.Path

/-!
# Configurations

Everything a machine and a run of it are composed from.  Every part has a
default: one core on the standard platform with two gibibytes of memory.
-/

namespace Mainboard

/-- What is configured of a cluster. -/
structure ClusterConfiguration where
  cores : Nat := 1
  model : CoreModel := .atomic
  clock : Frequency := .ghz 2
  voltage : Voltage := .standard
  caches : HierarchyRequest := {}
  features : CoreFeatures := {}
  threads : UInt32 := 1
  monitorInterrupts : Option (List UInt32) := none
  monitorEvents : List String := []
  deriving DecidableEq

def ClusterConfiguration.request (cluster : ClusterConfiguration)
    (warmupInstructions : Option UInt64) : ClusterRequest where
  coreCount := cluster.cores
  clock := cluster.clock
  voltage := cluster.voltage
  model := cluster.model
  caches := cluster.caches
  features := cluster.features
  warmupInstructions
  threads := cluster.threads
  monitors :=
    cluster.monitorInterrupts.map fun interrupts => ⟨interrupts, cluster.monitorEvents⟩

/-- What is configured of switching core models. -/
structure SwitchingConfiguration where
  /-- The fidelities in order, the first being that of every cluster. -/
  sequence : List CoreModel := [.atomic, .timing, .outOfOrder]
  /-- A cap on the instructions of a core that is switched in. -/
  instructionCap : Option UInt64 := none
  /-- Whether a core that is switched in is checked by another. -/
  checker : Bool := false
  deriving DecidableEq

/-- One phase of a run: the fidelity of every cluster and a tick budget. -/
structure Phase where
  fidelity : CoreModel
  ticks : Option UInt64 := none
  deriving DecidableEq

/-- What is configured of a run. -/
structure RunConfiguration where
  directory : String := "m5out"
  warmupInstructions : Option UInt64 := none
  warmupQuantum : UInt64 := 250000000
  standardWarmup : UInt64 := 5000000
  restore : Option String := none
  revertBeforeCheckpoint : Bool := true
  phases : List Phase := []
  deriving DecidableEq

/-- The committed instructions that end a warm-up.  Zero stands for the
standard number; without a number there is no warm-up. -/
def RunConfiguration.warmupThreshold (run : RunConfiguration) : Option UInt64 :=
  run.warmupInstructions.map fun count => if count = 0 then run.standardWarmup else count

/-- What a kernel is told when it boots. -/
structure BootConfiguration where
  rootDevice : String := "/dev/vda"
  console : String := "ttyAMA0"
  loopsPerJiffy : UInt64 := 19988480
  extra : List String := []
  deriving DecidableEq

/-- A whole configuration. -/
structure Configuration where
  platform : PlatformKind := .standard
  regions : Option (List AddressRange) := none
  memorySize : ByteSize := .gib 2
  cachesEnabled : Bool := true
  depth : UInt8 := 3
  clusters : List ClusterConfiguration := [{}]
  switching : SwitchingConfiguration := {}
  run : RunConfiguration := {}
  boot : BootConfiguration := {}
  deriving DecidableEq

namespace Configuration

/-- Whether a configuration is the default one.  The directory of the run may
be written in another way, as long as it names the same path. -/
def isDefault (configuration : Configuration) : Bool :=
  let standard : RunConfiguration := {}
  Text.samePath configuration.run.directory standard.directory &&
    { configuration with run.directory := standard.directory } = ({} : Configuration)

/-- The platform, with the configured regions in place of its own. -/
def machinePlatform (configuration : Configuration) : Platform :=
  let preset := Platform.preset configuration.platform
  { preset with regions := configuration.regions.getD preset.regions }

def memoryMode (configuration : Configuration) : MemoryMode :=
  configuration.clusters.foldl
    (fun mode cluster => mode.combine cluster.model.memoryMode) .atomicNoncaching

end Configuration

end Mainboard
