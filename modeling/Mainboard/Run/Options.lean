import Mainboard.BootArguments
import Mainboard.Engine.Basic

/-!
# Run options

The settings of one run, and what a run that ends produces.
-/

namespace Mainboard

/-- The settings of a run. -/
structure RunOptions where
  directory : String := ({} : RunConfiguration).directory
  /-- The committed instructions that end the warm-up, if there is one. -/
  warmupThreshold : Option UInt64 := none
  /-- The ticks of one quantum of the warm-up. -/
  warmupQuantum : UInt64 := ({} : RunConfiguration).warmupQuantum
  restore : Option String := none
  revertBeforeCheckpoint : Bool := true
  phases : List Phase := []
  boot : BootConfiguration := {}
  deriving DecidableEq

/-- The options of a configured run.  A warm-up advances by quanta that are not empty. -/
def RunOptions.ofConfiguration (run : RunConfiguration) : Except Error RunOptions :=
  if run.warmupInstructions.isSome ∧ run.warmupQuantum = 0 then .error (.invalid .noWarmupQuantum)
  else
    .ok
      { directory := run.directory
        warmupThreshold := run.warmupThreshold
        warmupQuantum := run.warmupQuantum
        restore := run.restore
        revertBeforeCheckpoint := run.revertBeforeCheckpoint
        phases := run.phases }

/-- What a run produced. -/
structure Outcome where
  exit : ExitEvent
  /-- The directories of the checkpoints, in order. -/
  checkpoints : List String
  warmupQuanta : Nat
  finalInstructions : UInt64
  deriving DecidableEq

def RunOptions.checkpointDirectory (options : RunOptions) (tick : UInt64) : String :=
  Text.pathBelow options.directory ("cpt." ++ toString tick.toNat)

end Mainboard
