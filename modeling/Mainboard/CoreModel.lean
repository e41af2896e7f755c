/-!
# Models of a processor core

A cluster is composed from one model.  The model decides how a core reaches
memory, and with that whether private caches, walker caches and links on the
memory side are built for it at all.
-/

namespace Mainboard

/-- How cores of a model access memory. -/
inductive MemoryMode
  | atomic
  | timing
  | atomicNoncaching
  deriving DecidableEq

def MemoryMode.name : MemoryMode → String
  | .atomic => "atomic"
  | .timing => "timing"
  | .atomicNoncaching => "atomic_noncaching"

/-- The mode two groups of cores share: timed accesses if either needs them,
else atomic ones if either is atomic. -/
def MemoryMode.combine : MemoryMode → MemoryMode → MemoryMode
  | .timing, _ | _, .timing => .timing
  | .atomic, _ | _, .atomic => .atomic
  | .atomicNoncaching, .atomicNoncaching => .atomicNoncaching

/-- The models a cluster can be composed from. -/
inductive CoreModel
  | atomic
  | timing
  | minor
  | hpi
  | outOfOrder
  | kvm
  | fastModel
  deriving DecidableEq

namespace CoreModel

def memoryMode : CoreModel → MemoryMode
  | atomic => .atomic
  | timing | minor | hpi | outOfOrder => .timing
  | kvm | fastModel => .atomicNoncaching

def requiresCaches (model : CoreModel) : Bool := model.memoryMode = .timing

/-- Whether the model's page-table walkers have caches of their own. -/
def cachesWalks : CoreModel → Bool
  | minor | hpi | outOfOrder => true
  | atomic | timing | kvm | fastModel => false

/-- Whether the model is the detailed one, the only one with core features. -/
def isOutOfOrder (model : CoreModel) : Bool := model = .outOfOrder

/-- Whether the model bridges itself into the machine and needs no links to memory. -/
def isSelfBridged (model : CoreModel) : Bool := model = .fastModel

def tag : CoreModel → String
  | atomic => "atomic"
  | timing => "timing"
  | minor => "minor"
  | hpi => "hpi"
  | outOfOrder => "o3"
  | kvm => "kvm"
  | fastModel => "fastmodel"

def engineClass : CoreModel → String
  | atomic => "AtomicSimpleCPU"
  | timing => "TimingSimpleCPU"
  | minor => "MinorCPU"
  | hpi => "HPI"
  | outOfOrder => "DerivO3CPU"
  | kvm => "ArmV8KvmCPU"
  | fastModel => "FastModelCortexA76"

def spellings : List (String × CoreModel) :=
  [("AtomicSimpleCPU", atomic), ("atomic", atomic),
    ("TimingSimpleCPU", timing), ("timing", timing),
    ("MinorCPU", minor), ("minor", minor),
    ("HPI", hpi), ("hpi", hpi),
    ("DerivO3CPU", outOfOrder), ("O3CPU", outOfOrder), ("o3", outOfOrder), ("ooo", outOfOrder),
    ("ArmV8KvmCPU", kvm), ("kvm", kvm),
    ("FastModelCortexA76", fastModel), ("fast_model", fastModel), ("fastmodel", fastModel)]

end CoreModel

end Mainboard
