import Mainboard.Error

/-!
# Branch predictors

The predictor an out-of-order core is built with, and the size of its branch
target buffer.
-/

namespace Mainboard

/-- The direction predictors of the engine. -/
inductive PredictorKind
  | perBranch
  | biMode
  | tournament
  | tage
  | ltage
  | tageScL
  | perceptron
  deriving DecidableEq

def PredictorKind.name : PredictorKind → String
  | .perBranch => "LocalBP"
  | .biMode => "BiModeBP"
  | .tournament => "TournamentBP"
  | .tage => "TAGE"
  | .ltage => "LTAGE"
  | .tageScL => "TAGE_SC_L_64KB"
  | .perceptron => "MultiperspectivePerceptron64KB"

def PredictorKind.spellings : List (String × PredictorKind) :=
  [PredictorKind.perBranch, .biMode, .tournament, .tage, .ltage, .tageScL, .perceptron].map
    fun kind => (kind.name, kind)

/-- The predictors of indirect targets. -/
inductive IndirectPredictorKind
  | ittage
  | simple
  deriving DecidableEq

def IndirectPredictorKind.name : IndirectPredictorKind → String
  | ittage => "ITTAGE"
  | simple => "SimpleIndirectPredictor"

def IndirectPredictorKind.spellings : List (String × IndirectPredictorKind) :=
  [ittage, simple].map fun kind => (kind.name, kind)

/-- A predictor as it is asked for. -/
structure PredictorRequest where
  kind : PredictorKind := .tournament
  targetEntries : Option UInt64 := none
  indirect : IndirectPredictorKind := .ittage
  deriving DecidableEq

/-- The entries of a branch target buffer and the width of their tags. -/
structure TargetBuffer where
  entries : UInt64
  tagBits : Nat
  deriving DecidableEq

/-- The buffer of some entries.  Their number is a power of two; an address
loses the bits of the index and two more of instruction alignment, and at
least one bit is left for the tag. -/
def TargetBuffer.ofEntries (entries : UInt64) : Except Error TargetBuffer :=
  let indexBits := entries.toNat.log2
  if 1 <<< indexBits ≠ entries.toNat then
    .error (.invalid (.targetBufferNotPowerOfTwo entries.toNat))
  else if 64 ≤ indexBits + 2 then
    .error (.invalid (.targetBufferWithoutTag entries.toNat))
  else .ok ⟨entries, 64 - (indexBits + 2)⟩

/-- A predictor whose settings are checked. -/
structure PredictorSettings where
  kind : PredictorKind
  targets : Option TargetBuffer
  indirect : IndirectPredictorKind
  deriving DecidableEq

def PredictorRequest.resolve (request : PredictorRequest) : Except Error PredictorSettings :=
  match request.targetEntries with
  | none => .ok ⟨request.kind, none, request.indirect⟩
  | some entries =>
      (TargetBuffer.ofEntries entries).map fun buffer =>
        ⟨request.kind, some buffer, request.indirect⟩

end Mainboard
