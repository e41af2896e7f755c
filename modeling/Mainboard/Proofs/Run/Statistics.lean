import Mainboard.Proofs.Bench.Traces
import Mainboard.Proofs.Run.WarmUps

/-!
# The statistics of a run

A run that ends well calls its engine in parts.  It instantiates the machine,
warms it up, sets the statistics back once if the workload goes on after a
warm-up, and goes through its phases, where the statistics are left alone.  Its
last call dumps them, so that its outcome counts the phases only.
-/

namespace Mainboard

/-- Whether phases make a call: they simulate, write checkpoints and hand cores over. -/
def Call.isOfPhases : Call → Bool
  | simulate _ | checkpoint _ | switchCores _ => true
  | instantiate .. | dumpStatistics | resetStatistics => false

/-- What a run calls, in its parts. -/
structure Course where
  built : LedgerEntry
  quanta : List Quantum
  resets : List LedgerEntry
  phases : List LedgerEntry
  final : LedgerEntry

namespace Course

/-- The parts of a course one after the other, with quanta of some ticks. -/
def ledger (course : Course) (ticks : UInt64) (controller : Controller) : List LedgerEntry :=
  course.built :: (course.quanta.flatMap (Quantum.entries ticks controller) ++
    (course.resets ++ (course.phases ++ [course.final])))

/-- Whether the workload exits in the warm-up. -/
def exits (course : Course) : Bool := course.quanta.any (·.event.isWorkloadExit)

/-- What is measured of a run is measured from the end of its warm-up to its last call. -/
structure Measures (course : Course) (topology : Topology) (options : RunOptions)
    (outcome : Outcome) : Prop where
  built : course.built.call =
    .instantiate topology (options.boot.commandLine topology) options.restore
  counted : course.quanta.length = outcome.warmupQuanta
  unwarmed : course.quanta = [] ↔ options.warmupThreshold = none
  goesOn : ∀ quantum ∈ course.quanta.dropLast, quantum.event.isWorkloadExit = false
  resets : course.resets.map (·.call) =
    if options.warmupThreshold.isSome && !course.exits then [.resetStatistics] else []
  exited : ∀ quantum ∈ course.quanta, quantum.event.isWorkloadExit →
    outcome.exit = quantum.event ∧ course.phases = []
  phases : ∀ entry ∈ course.phases, entry.call.isOfPhases
  final : ∃ tick controller,
    course.final = ⟨.dumpStatistics, .ok outcome.finalInstructions, tick, controller⟩

end Course

namespace Action

open Bench

variable {σ : Type} {engine : Engine σ} {before after : Bench σ}

/-- Phases leave the statistics alone. -/
theorem leaves_isOfPhases_afterWarmUp (options : RunOptions) (patience : Nat)
    (exited : Option ExitEvent) :
    Leaves (fun trace _ => ∀ entry ∈ trace, entry.call.isOfPhases)
      (afterWarmUp engine options patience exited) := by
  have composes := composes_forall_mem fun entry => entry.call.isOfPhases
  have made : ∀ {α : Type} {action : Action σ α},
      Stepwise engine (fun call => call.isOfPhases) action →
      Leaves (fun trace _ => ∀ entry ∈ trace, entry.call.isOfPhases) action :=
    fun stepwise => stepwise.leaves fun _ _ calls => calls
  have entered : ∀ fidelity, Leaves (fun trace _ => ∀ entry ∈ trace, entry.call.isOfPhases)
      (enter engine fidelity) := fun fidelity => made (stepwise_enter fidelity fun _ => rfl)
  refine leaves_afterWarmUp composes entered (fun phase => ?_) exited
  exact leaves_simulatePhase composes (by simp) (made (stepwise_call rfl (by simp)))
    (made (stepwise_checkpoint options (fun _ => rfl) fun _ => rfl)) (entered phase.fidelity)
    patience

/-- A run that ends well calls its engine in parts, so that its last call measures what comes after
the warm-up.  Its first call instantiates the machine, every quantum is one stretch with one dump
after it, and the statistics are set back once, after a warm-up in which the workload has not
exited.  If it has, nothing but the last call follows. -/
theorem run_measures_phases {topology : Topology} {options : RunOptions} {patience : Nat}
    {outcome : Outcome}
    (ended : Ends (run engine topology options patience) before (.ok outcome) after) :
    ∃ course : Course, course.Measures topology options outcome ∧
      after.ledger = before.ledger ++ course.ledger options.warmupQuantum before.controller := by
  obtain ⟨halt, impossible, -⟩ | ⟨opened, warmed, opens, closes⟩ := ends_run ended
  · cases impossible
  obtain ⟨built, quanta, resets, warmedEq, instantiates, counted, warmsUp, calls⟩ :=
    warmsUp_of_opening opens
  obtain ⟨value, last, phased, onward⟩ := ends_bind_ok_iff.mp closes
  obtain ⟨phases, lastEq, ofPhases⟩ := leaves_isOfPhases_afterWarmUp _ _ _ phased
  obtain ⟨count, _, dumped, done⟩ := ends_bind_ok_iff.mp onward
  obtain ⟨answered, rfl⟩ := ends_call_ok_iff.mp dumped
  obtain ⟨rfl, rfl⟩ := ends_pure_ok_iff.mp done
  let final := last.entry engine .dumpStatistics
  refine ⟨⟨built, quanta, resets, phases, final⟩, ?_, ?_⟩
  · constructor
    case built => exact instantiates
    case counted => exact counted.symm
    case unwarmed => exact warmsUp.eq_nil_iff
    case goesOn => exact warmsUp.goesOn_of_mem_dropLast
    case resets =>
      rw [Course.exits, warmsUp.any_isWorkloadExit]
      simpa using calls
    case exited =>
      intro quantum member exits
      rw [warmsUp.eq_some_of_exits member exits] at phased
      obtain ⟨rfl, rfl⟩ := ends_pure_ok_iff.mp phased
      exact ⟨rfl, List.append_right_eq_self.mp lastEq.symm⟩
    case phases => exact ofPhases
    case final =>
      refine ⟨engine.tick last.engine, last.controller, ?_⟩
      simp only [final, entry, answered]
  · rw [ledger_record, lastEq, warmedEq, Course.ledger]
    simp [final]

/-- A script of stretches that commit one instruction each, the first asking for a checkpoint. -/
def commitsOne : Script where
  events := [.checkpointRequest]
  instructionsPerStretch := 1

/-- A warm-up of two instructions. -/
def twoInstructions : RunOptions where
  warmupThreshold := some 2

theorem run_measures_phases_twoInstructions :
    ∃ outcome after, ∃ course : Course,
      Ends (run commitsOne.engine .dual twoInstructions 4)
        { engine := .ofScript commitsOne, controller := .dual } (.ok outcome) after ∧
      course.Measures .dual twoInstructions outcome ∧
      after.ledger = course.ledger twoInstructions.warmupQuantum .dual ∧
      after.ledger.map (·.call.kind) = [.instantiate, .simulate, .dumpStatistics, .simulate,
        .dumpStatistics, .resetStatistics, .simulate, .dumpStatistics] := by
  have runs : yields (run commitsOne.engine .dual twoInstructions 4 >>= fun _ => get >>= pure)
      { engine := .ofScript commitsOne, controller := .dual } fun bench =>
        bench.ledger.map (·.call.kind) = [.instantiate, .simulate, .dumpStatistics, .simulate,
          .dumpStatistics, .resetStatistics, .simulate, .dumpStatistics] := by
    decide +kernel
  obtain ⟨bench, after, ended, kinds⟩ := exists_ends_of_yields runs
  obtain ⟨outcome, last, ran, read⟩ := ends_bind_ok_iff.mp ended
  obtain ⟨rfl, rfl⟩ := ends_pure_ok_iff.mp (ends_get_bind_iff.mp read)
  obtain ⟨course, measures, ledgerEq⟩ := run_measures_phases ran
  exact ⟨outcome, _, course, ran, measures, ledgerEq, of_decide_eq_true kinds⟩

end Action

end Mainboard
