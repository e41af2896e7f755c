import Mainboard.BranchPredictor
import Mainboard.Saturating

/-!
# Features of an out-of-order core

Every feature the detailed core model can be asked for, and the settings that
a core of it is built with once the features are checked.  Cores of other
models take no features.
-/

namespace Mainboard

/-- Features of the fetch engine. -/
structure FetchFeatures where
  directedPrefetch : Bool := false
  perfectCache : Bool := false
  queueSize : Option UInt32 := none
  targetQueueSize : Option UInt32 := none
  targetInstructions : Option UInt32 := none
  deriving DecidableEq

/-- Features that keep instruction fetch from starving. -/
structure StarvationFeatures where
  minimumCount : Option UInt32 := none
  random : Bool := false
  randomness : Option UInt32 := none
  pureRandom : Bool := false
  randomHistory : Bool := false
  oracle : Bool := false
  oracleFile : Option String := none
  oracleThreshold : Option UInt32 := none
  deriving DecidableEq

/-- Caps on the instructions a core commits. -/
structure InstructionLimits where
  perThread : Option UInt64 := none
  total : Option UInt64 := none
  deriving DecidableEq

/-- The features asked for. -/
structure CoreFeatures where
  fetch : FetchFeatures := {}
  starvation : StarvationFeatures := {}
  predictor : Option PredictorRequest := none
  confidenceThreshold : Option UInt32 := none
  confidenceMinimum : Option UInt64 := none
  dumpConfidence : Bool := false
  dumpStarvation : Bool := false
  limits : InstructionLimits := {}
  sets : Option UInt32 := none
  deriving DecidableEq

/-- What starvation tracking assumes about replacement. -/
inductive ReplacementMode
  | oracle
  | lru
  | random
  | untracked
  deriving DecidableEq

def ReplacementMode.number : ReplacementMode → Nat
  | oracle => 0
  | lru => 1
  | random => 2
  | untracked => 3

/-- What a cluster contributes to the settings of its cores. -/
structure FeatureContext where
  warmupInstructions : Option UInt64 := none
  analysis : Bool := false
  emissary : Bool := false
  deriving DecidableEq

/-- The checked settings of one out-of-order core. -/
structure OutOfOrderSettings where
  fetch : FetchFeatures
  starvation : StarvationFeatures
  starvationEmissary : Bool
  predictor : Option PredictorSettings
  confidenceThreshold : Option UInt32
  confidenceMinimum : Option UInt64
  dumpConfidence : Bool
  dumpStarvation : Bool
  perThreadInstructions : Option UInt64
  totalInstructions : Option UInt64
  replacement : ReplacementMode
  sets : Option UInt32
  deriving DecidableEq

/-- A cap counts from the end of the warm-up; no cap stays no cap. -/
def afterWarmup (cap warmup : Option UInt64) : Option UInt64 :=
  cap.map fun count => saturatingAdd count (warmup.getD 0)

namespace CoreFeatures

def isDefault (features : CoreFeatures) : Bool := features = {}

def resolve (features : CoreFeatures) (context : FeatureContext) :
    Except Error OutOfOrderSettings :=
  if features.fetch.targetInstructions = some 0 then .error (.invalid .emptyFetchTarget)
  else do
    let predictor ←
      match features.predictor with
      | none => .ok none
      | some request => request.resolve.map some
    return {
      fetch := features.fetch
      starvation := features.starvation
      starvationEmissary := context.emissary
      predictor
      confidenceThreshold := features.confidenceThreshold
      confidenceMinimum := features.confidenceMinimum
      dumpConfidence := features.dumpConfidence
      dumpStarvation := features.dumpStarvation
      perThreadInstructions := afterWarmup features.limits.perThread context.warmupInstructions
      totalInstructions := afterWarmup features.limits.total context.warmupInstructions
      replacement := if context.analysis then .oracle else .lru
      sets := features.sets }

end CoreFeatures

end Mainboard
