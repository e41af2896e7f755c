import Mainboard.AddressRange
import Mainboard.CoreModel
import Mainboard.Document.Problem

/-!
# What can go wrong

Composing a machine can fail before anything runs: these are configuration
errors.  A run can fail afterwards: the engine reports a failure, a switch of
core models is refused, or a checkpoint is asked for on the wrong fidelity.
-/

namespace Mainboard

/-- Why a switch of a cluster's core models is refused. -/
inductive SwitchFault
  /-- The target is not next to the current fidelity. -/
  | notAdjacent (source target : CoreModel)
  /-- The target is not in the fidelity sequence. -/
  | notInSequence (target : CoreModel)
  /-- An earlier batch for the cluster is not complete. -/
  | switchInFlight
  /-- An earlier batch for the cluster was aborted. -/
  | clusterPoisoned
  /-- The batch does not name every slot exactly once. -/
  | partialBatch (covered slots : Nat)
  /-- The batch names a slot the cluster does not have. -/
  | unknownSlot (slot : Nat)
  /-- The batch names more than one target. -/
  | mixedTargets
  /-- The cluster's slots are not on a common fidelity. -/
  | mixedFidelity
  /-- The batch does not hold its cluster's token. -/
  | staleBatch
  deriving DecidableEq

def SwitchFault.message : SwitchFault → String
  | notAdjacent source target =>
      source.engineClass ++ " -> " ++ target.engineClass ++
        " is not an adjacent step in the sequence"
  | notInSequence target => target.engineClass ++ " is not in the fidelity sequence"
  | switchInFlight => "a switch for this cluster is already in flight"
  | clusterPoisoned => "an earlier switch for this cluster was aborted"
  | partialBatch covered slots =>
      "batch covers " ++ toString covered ++ " of " ++ toString slots ++ " slots"
  | unknownSlot slot => "no slot " ++ toString slot ++ " in cluster"
  | mixedTargets => "batch requests more than one target fidelity"
  | mixedFidelity => "slots are not on a common fidelity"
  | staleBatch => "batch does not hold the cluster's switch token"

/-- A setting that no machine or run can use. -/
inductive InvalidSetting
  | noThreads
  | fastModelCores (limit given : Nat)
  | emptyFetchTarget
  | targetBufferNotPowerOfTwo (entries : Nat)
  | targetBufferWithoutTag (entries : Nat)
  | uncoveredMemory (allocated requested : UInt64)
  | unexpectedL2 (cluster : Nat) (depth : UInt8)
  | cachesBypassed (cluster : Nat)
  | unexpectedL3 (depth : UInt8)
  | emptySequence
  | repeatedModel (model : CoreModel)
  | firstFidelity (cluster : Nat) (composed first : CoreModel)
  | noCluster (cluster : Nat)
  | noWarmupQuantum
  deriving DecidableEq

namespace InvalidSetting

def field : InvalidSetting → String
  | noThreads => "threads_per_core"
  | fastModelCores .. => "cores"
  | emptyFetchTarget => "ftq_inst"
  | targetBufferNotPowerOfTwo .. | targetBufferWithoutTag .. => "btb_entries"
  | uncoveredMemory .. => "memory_ranges"
  | unexpectedL2 .. | unexpectedL3 .. => "hierarchy_depth"
  | cachesBypassed .. => "caches"
  | emptySequence | repeatedModel .. | firstFidelity .. => "switching.sequence"
  | noCluster .. => "cluster"
  | noWarmupQuantum => "run.warmup_quantum_ticks"

def reason : InvalidSetting → String
  | noThreads | emptyFetchTarget | noWarmupQuantum => "must be greater than zero"
  | fastModelCores limit given =>
      "a fast-model cluster holds at most " ++ toString limit ++ " cores, got " ++ toString given
  | targetBufferNotPowerOfTwo entries => toString entries ++ " is not a power of two"
  | targetBufferWithoutTag entries => toString entries ++ " entries leave no tag bits"
  | uncoveredMemory allocated requested =>
      "ranges cover " ++ AddressRange.hexadecimal allocated ++ " bytes, " ++
        AddressRange.hexadecimal requested ++ " requested"
  | unexpectedL2 cluster depth =>
      "cluster " ++ toString cluster ++ " has an L2 at depth " ++ toString depth.toNat
  | cachesBypassed cluster =>
      "cluster " ++ toString cluster ++ " bypasses the timing hierarchy but has caches"
  | unexpectedL3 depth => "shared L3 presence does not match depth " ++ toString depth.toNat
  | emptySequence => "must not be empty"
  | repeatedModel model => model.engineClass ++ " appears more than once"
  | firstFidelity cluster composed first =>
      "cluster " ++ toString cluster ++ " is composed from " ++ composed.engineClass ++
        " but the sequence starts at " ++ first.engineClass ++
        "; every cluster must be composed from the first fidelity, so compose it from " ++
        first.engineClass ++ " or start the sequence at " ++ composed.engineClass
  | noCluster cluster => "no cluster " ++ toString cluster

end InvalidSetting

/-- Why a configuration file cannot be read. -/
inductive FileFault
  | absent
  | notText
  deriving DecidableEq

def FileFault.message : FileFault → String
  | absent => "No such file or directory (os error 2)"
  | notText => "stream did not contain valid UTF-8"

/-- Everything that composing or running a machine can report. -/
inductive Error
  /-- The requested memory does not fit in the platform's regions. -/
  | insufficientMemory (requested available : UInt64)
  /-- The hierarchy is not one, two or three levels deep. -/
  | invalidDepth (depth : UInt8)
  /-- A cluster without cores. -/
  | emptyCluster
  /-- A machine without clusters. -/
  | noClusters
  /-- Another number of monitor interrupts than of cores. -/
  | interruptCount (cluster given cores : Nat)
  /-- A setting that cannot be used. -/
  | invalid (setting : InvalidSetting)
  /-- An amount whose text cannot be read. -/
  | unreadable (noun text : String)
  /-- A document with a problem. -/
  | document (problem : Document.Problem)
  /-- A configuration file that cannot be read. -/
  | file (fault : FileFault)
  /-- A refused switch. -/
  | switch (cluster : Nat) (fault : SwitchFault)
  /-- A checkpoint while a slot is not on the first fidelity. -/
  | checkpointFidelity (cluster slot : Nat) (active required : CoreModel)
  /-- A failure of the simulation engine. -/
  | engine (message : String)

namespace Error

def message : Error → String
  | insufficientMemory requested available =>
      "memory size " ++ AddressRange.hexadecimal requested ++
        " too big for platform capabilities (" ++ AddressRange.hexadecimal available ++
        " available)"
  | invalidDepth depth =>
      "cache hierarchy depth " ++ toString depth.toNat ++ " is outside 1..=3"
  | emptyCluster => "a CPU cluster needs at least one core"
  | noClusters => "system has no CPU clusters"
  | interruptCount cluster given cores =>
      "cluster " ++ toString cluster ++ ": " ++ toString given ++ " PMU interrupts for " ++
        toString cores ++ " cores"
  | invalid setting => "invalid " ++ setting.field ++ ": " ++ setting.reason
  | unreadable noun text => (Document.Mismatch.unreadable noun text).message
  | document .malformed => "configuration: malformed document"
  | document .ended => "configuration: document ends too early"
  | document (.refused mismatch) => "configuration: " ++ mismatch.message
  | file fault => "configuration file: " ++ fault.message
  | switch cluster fault =>
      "cluster " ++ toString cluster ++ ": unsupported switch transition: " ++ fault.message
  | checkpointFidelity cluster slot active required =>
      "cluster " ++ toString cluster ++ " slot " ++ toString slot ++ " is on " ++
        active.engineClass ++ "; checkpoints require " ++ required.engineClass
  | engine text => "simulation engine: " ++ text

/-- Whether the error arises before a machine is handed to the engine. -/
def isConfiguration : Error → Bool
  | switch .. | checkpointFidelity .. | engine .. => false
  | _ => true

/-- The exit code of a process that ends with the error: one when no machine
was composed, two when a run was given up. -/
def exitCode (error : Error) : Nat := if error.isConfiguration then 1 else 2

end Error

end Mainboard
