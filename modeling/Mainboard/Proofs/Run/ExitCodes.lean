import Mainboard.Engine.Scripted
import Mainboard.Proofs.Bench.Traces
import Mainboard.Proofs.Run.Preparation
import Mainboard.Proofs.Topology.Acceptance

/-!
# Exit codes tell whether a machine was run

Everything that composing a machine, its controller and its options can report
is an error of the configuration, and comes before the engine is called.  The
first call of a run instantiates the machine.  From then on no error is one of
the configuration: clusters are walked by their numbers, so that none of them
is ever missing, and what else is refused is a switch or a checkpoint.
-/

namespace Mainboard

theorem Error.isConfiguration_eq_false_iff {error : Error} :
    error.isConfiguration = false ↔
      (∃ message, error = .engine message) ∨ (∃ cluster fault, error = .switch cluster fault) ∨
        ∃ cluster slot active required,
          error = .checkpointFidelity cluster slot active required := by
  cases error <;> simp [isConfiguration]

/-- What fails with errors of the configuration only. -/
def FailsEarly {α : Type} (outcome : Except Error α) : Prop :=
  ∀ error, outcome = .error error → error.isConfiguration = true

namespace FailsEarly

variable {α β : Type} {outcome : Except Error α}

theorem ok (value : α) : FailsEarly (.ok value : Except Error α) := by
  simp [FailsEarly]

theorem invalid (setting : InvalidSetting) :
    FailsEarly (.error (.invalid setting) : Except Error α) := by
  rintro error ⟨⟩
  rfl

theorem bind {next : α → Except Error β} (first : FailsEarly outcome)
    (rest : ∀ value, FailsEarly (next value)) : FailsEarly (outcome >>= next) := by
  intro error failed
  obtain stopped | ⟨value, -, later⟩ := Except.bind_eq_error_iff.mp failed
  · exact first error stopped
  · exact rest value error later

theorem map (early : FailsEarly outcome) (change : α → β) : FailsEarly (outcome.map change) := by
  cases outcome with
  | ok value => exact .ok (change value)
  | error error =>
      rintro other ⟨⟩
      exact early error rfl

theorem mapM {make : α → Except Error β} (round : ∀ item, FailsEarly (make item))
    (items : List α) : FailsEarly (items.mapM make) := by
  induction items with
  | nil => exact .ok []
  | cons item items ih =>
      rw [List.mapM_cons]
      exact .bind (round item) fun _ => .bind ih fun _ => .ok _

end FailsEarly

/-- Conditions whose errors are all of the configuration. -/
def AreEarly (conditions : List Condition) : Prop :=
  ∀ condition ∈ conditions, condition.error.isConfiguration = true

theorem Obeys.failsEarly {α : Type} {conditions : List Condition} {outcome : Except Error α}
    (obeys : Obeys conditions outcome) (early : AreEarly conditions) : FailsEarly outcome := by
  intro error failed
  obtain ⟨condition, member, -, rfl⟩ := (obeys.eq_error_iff.mp failed).exists_violated
  exact early condition member

theorem PredictorRequest.areEarly_conditions (request : PredictorRequest) :
    AreEarly request.conditions := by
  rw [conditions]
  cases request.targetEntries with
  | none => simp [AreEarly]
  | some entries => simp [AreEarly, TargetBuffer.conditions, Error.isConfiguration]

theorem CoreFeatures.areEarly_conditions (features : CoreFeatures) :
    AreEarly features.conditions := by
  rw [conditions]
  refine List.forall_mem_cons.mpr ⟨rfl, ?_⟩
  cases features.predictor with
  | none => simp
  | some request => exact request.areEarly_conditions

namespace ClusterRequest

theorem areEarly_conditions (request : ClusterRequest) : AreEarly request.conditions := by
  rw [conditions]
  refine List.forall_mem_cons.mpr ⟨rfl, List.forall_mem_cons.mpr ⟨rfl,
    List.forall_mem_cons.mpr ⟨rfl, ?_⟩⟩⟩
  split
  · exact request.features.areEarly_conditions
  · simp

theorem areEarly_monitorConditions (requests : List ClusterRequest) :
    AreEarly (monitorConditions requests) := by
  rw [AreEarly, monitorConditions, List.forall_mem_flatMap]
  rintro ⟨request, index⟩ -
  dsimp only
  cases request.monitors with
  | none => simp [Cluster.monitorConditions]
  | some monitors => simp [Cluster.monitorConditions, Error.isConfiguration]

end ClusterRequest

theorem FidelitySequence.failsEarly_ofModels (models : List CoreModel) :
    FailsEarly (ofModels models) := by
  rw [ofModels]
  split
  · exact .invalid _
  · split
    · exact .invalid _
    · exact .ok _

theorem Controller.failsEarly_new (topology : Topology) (sequence : FidelitySequence)
    (options : SwitchOptions) : FailsEarly (new topology sequence options) := by
  refine .map (.mapM (fun cluster => ?_) _) _
  rw [setOf]
  split
  · exact .ok _
  · exact .invalid _

theorem RunOptions.failsEarly_ofConfiguration (run : RunConfiguration) :
    FailsEarly (ofConfiguration run) := by
  rw [ofConfiguration]
  split
  · exact .invalid _
  · exact .ok _

namespace Configuration

theorem areEarly_conditions (configuration : Configuration) :
    AreEarly configuration.conditions := by
  refine List.forall_mem_cons.mpr ⟨rfl, List.forall_mem_append.mpr ⟨?memory,
    List.forall_mem_append.mpr ⟨?clusters, List.forall_mem_cons.mpr ⟨rfl, ?monitors⟩⟩⟩⟩
  case memory => simp [Memory.conditions, Error.isConfiguration]
  case clusters =>
    rw [List.forall_mem_flatMap]
    exact fun request _ => request.areEarly_conditions
  case monitors => exact ClusterRequest.areEarly_monitorConditions _

/-- What is not composed is reported as an error of the configuration. -/
theorem failsEarly_prepare (configuration : Configuration) : FailsEarly configuration.prepare :=
  .bind (configuration.obeys_topology.failsEarly configuration.areEarly_conditions) fun topology =>
    .bind (FidelitySequence.failsEarly_ofModels _) fun sequence =>
      .bind (Controller.failsEarly_new topology sequence _) fun _ =>
        .bind (RunOptions.failsEarly_ofConfiguration _) fun _ => .ok _

end Configuration

/-- A trace does not end with an error of the configuration. -/
def HaltsLate (_ : List LedgerEntry) (halt : Option Halt) : Prop :=
  ∀ reason, halt = some reason → ∀ error, reason = .failed error → error.isConfiguration = false

namespace Action

open Bench

variable {σ : Type} {engine : Engine σ} {before after : Bench σ}

theorem allowsRuns_haltsLate : AllowsRuns HaltsLate where
  toComposes := composes_forall_halt _
  answered := by simp [HaltsLate]
  failed := by simp [HaltsLate, Error.isConfiguration]
  refused := by simp [HaltsLate, Error.isConfiguration]
  impatient := by simp [HaltsLate]
  offFirst := by simp [HaltsLate, Error.isConfiguration]

/-- The first call of a run instantiates the machine. -/
theorem exists_rest_of_run {topology : Topology} {options : RunOptions} {patience : Nat}
    {result : Except Halt Outcome}
    (ended : Ends (run engine topology options patience) before result after) :
    ∃ rest, after.ledger = before.ledger ++ before.entry engine
      (.instantiate topology (options.boot.commandLine topology) options.restore) :: rest := by
  obtain ⟨halt, -, failed⟩ | ⟨_, middle, built, onward⟩ := ends_bind_iff.mp ended
  · obtain ⟨-, rfl⟩ := ends_call_iff.mp failed
    exact ⟨[], rfl⟩
  · obtain ⟨-, rfl⟩ := ends_call_iff.mp built
    -- What follows only adds to the ledger.
    obtain ⟨later, ledgerEq, -⟩ := Steps.exists_rest (Stepwise.bind
      (stepwise_warmUp (fun _ => trivial) trivial trivial options patience)
      (fun _ => .bind (stepwise_afterWarmUp (fun _ => trivial) options patience _) fun _ =>
        .bind (stepwise_call trivial (by simp)) fun _ => .pure _) onward).1
    exact ⟨later, by rw [ledgerEq, ledger_record, List.append_assoc, List.singleton_append]⟩

end Action

namespace Configuration

variable {σ : Type} {error : Error}

/-- An error is one of the configuration, which is exit code one, if and only if the engine was
never called: the ledger, which leaves no call out, is empty.  Otherwise the first call instantiated
a machine, and the error is a failure of the engine, a refused switch or a refused checkpoint. -/
theorem isConfiguration_iff_uncalled {engine : Engine σ} {patience : Nat}
    {configuration : Configuration} {state : σ} {report : Report σ}
    (executed : configuration.execute engine patience state = report)
    (failed : report.result = .error (.failed error)) :
    engine.Answers state report.ledger report.engine ∧
    (error.isConfiguration = true ↔ report.ledger = []) ∧
    (error.exitCode = 1 ↔ report.ledger = []) ∧
    (error.exitCode = 2 ↔ report.ledger ≠ []) ∧
    (report.ledger ≠ [] →
      (∃ first rest topology commandLine restore, report.ledger = first :: rest ∧
        first.call = .instantiate topology commandLine restore) ∧
      ((∃ message, error = .engine message) ∨ (∃ cluster fault, error = .switch cluster fault) ∨
        ∃ cluster slot active required,
          error = .checkpointFidelity cluster slot active required)) := by
  subst executed
  refine ⟨answers_execute engine patience configuration state, ?_⟩
  cases ready : configuration.prepare with
  | error reason =>
      rw [execute_of_unprepared ready] at failed ⊢
      obtain rfl : reason = error := by simpa using failed
      have early := configuration.failsEarly_prepare reason ready
      simp [Error.exitCode, early]
  | ok prepared =>
      obtain ⟨after, ended, ledgerEq⟩ := exists_ends_of_prepare engine patience state ready
      rw [failed] at ended
      obtain ⟨rest, called⟩ := Action.exists_rest_of_run ended
      obtain ⟨trace, -, late⟩ := Action.allowsRuns_haltsLate.leaves_run _ _ _ ended
      have running : error.isConfiguration = false := late _ rfl error rfl
      have instantiated : (configuration.execute engine patience state).ledger = _ :: rest :=
        ledgerEq.trans called
      have nonempty := List.ne_nil_of_mem (instantiated ▸ List.mem_cons_self)
      refine ⟨?_, ?_, ?_, fun _ => ⟨?_, ?_⟩⟩
      · simp [running, nonempty]
      · simp [Error.exitCode, running, nonempty]
      · simp [Error.exitCode, running, nonempty]
      · exact ⟨_, rest, _, _, _, instantiated, rfl⟩
      · exact Error.isConfiguration_eq_false_iff.mp running

/-- A phase on a model that is not in the sequence, for which composition does not ask. -/
def strayPhase : Configuration where
  run := { phases := [⟨.kvm, none⟩] }

/-- Four levels are refused before the engine is called, and a stray phase after that. -/
theorem isConfiguration_iff_uncalled_strayPhase :
    (∃ report, ({ depth := 4 } : Configuration).execute (Script.engine {}) 1 (.ofScript {}) =
        report ∧ report.result = .error (.failed (.invalidDepth 4)) ∧ report.ledger = []) ∧
    ∃ report, strayPhase.execute (Script.engine {}) 1 (.ofScript {}) = report ∧
      report.result = .error (.failed (.switch 0 (.notInSequence .kvm))) ∧ report.ledger ≠ [] := by
  constructor
  · have refused : ∃ report,
        ({ depth := 4 } : Configuration).execute (Script.engine {}) 1 (.ofScript {}) = report ∧
        report.result = .error (.failed (.invalidDepth 4)) := ⟨_, rfl, rfl⟩
    obtain ⟨report, executed, failed⟩ := refused
    exact ⟨report, executed, failed, (isConfiguration_iff_uncalled executed failed).2.1.mp rfl⟩
  · have stopped : ∃ report,
        strayPhase.execute (Script.engine {}) 1 (.ofScript {}) = report ∧
        report.result = .error (.failed (.switch 0 (.notInSequence .kvm))) := ⟨_, rfl, rfl⟩
    obtain ⟨report, executed, failed⟩ := stopped
    exact ⟨report, executed, failed, (isConfiguration_iff_uncalled executed failed).2.2.2.1.mp rfl⟩

end Configuration

end Mainboard
