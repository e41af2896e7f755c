import Mainboard.Proofs.Bench.Steps

/-!
# Prepared runs

A configuration is prepared if its machine can be composed, its sequence and its
options can be used, and a controller can be made for the machine.  What is
executed then is a run that starts with this controller and an empty ledger.
Nothing is executed of a configuration that cannot be prepared.  Either way the
ledger leaves no call out: it leads the engine from its first state to its last.
-/

namespace Mainboard.Configuration

variable {σ : Type} {configuration : Configuration} {prepared : Prepared}

/-- What is prepared is the machine of the configuration, a new controller of it, and the options
of the run with what the kernel is told. -/
theorem prepare_eq_ok (ready : configuration.prepare = .ok prepared) :
    configuration.topology = .ok prepared.topology ∧
      (∃ sequence, FidelitySequence.ofModels configuration.switching.sequence = .ok sequence ∧
        Controller.new prepared.topology sequence configuration.switchOptions =
          .ok prepared.controller) ∧
      ∃ options, RunOptions.ofConfiguration configuration.run = .ok options ∧
        prepared.options = { options with boot := configuration.boot } := by
  obtain ⟨topology, composed, ready⟩ := Except.bind_eq_ok_iff.mp ready
  obtain ⟨sequence, named, ready⟩ := Except.bind_eq_ok_iff.mp ready
  obtain ⟨controller, built, ready⟩ := Except.bind_eq_ok_iff.mp ready
  obtain ⟨options, made, ready⟩ := Except.bind_eq_ok_iff.mp ready
  obtain rfl := Except.ok.inj ready
  exact ⟨composed, ⟨sequence, named, built⟩, options, made, rfl⟩

/-- What is not prepared leaves the engine alone. -/
theorem execute_of_unprepared {error : Error} (refused : configuration.prepare = .error error)
    (engine : Engine σ) (patience : Nat) (state : σ) :
    configuration.execute engine patience state = ⟨.error (.failed error), state, []⟩ := by
  rw [execute, refused]

/-- What is executed of a configuration that can be prepared is a run. -/
theorem exists_ends_of_prepare (engine : Engine σ) (patience : Nat) (state : σ)
    (ready : configuration.prepare = .ok prepared) :
    ∃ after : Bench σ,
      Action.Ends (Action.run engine prepared.topology prepared.options patience)
        { engine := state, controller := prepared.controller }
        (configuration.execute engine patience state).result after ∧
      (configuration.execute engine patience state).ledger = after.ledger := by
  simp only [execute, ready]
  split
  next outcome after ended => exact ⟨after, ended, rfl⟩
  next halt after ended => exact ⟨after, ended, rfl⟩

/-- The ledger of what is executed has every call of the engine with its answer. -/
theorem answers_execute (engine : Engine σ) (patience : Nat) (configuration : Configuration)
    (state : σ) :
    engine.Answers state (configuration.execute engine patience state).ledger
      (configuration.execute engine patience state).engine := by
  cases ready : configuration.prepare with
  | error error =>
      rw [execute_of_unprepared ready]
      exact .nil
  | ok prepared =>
      have answers : ∀ result after,
          Action.Ends (Action.run engine prepared.topology prepared.options patience)
            { engine := state, controller := prepared.controller } result after →
          engine.Answers state after.ledger after.engine :=
        fun result after ended =>
          (Action.stepwise_run (fun _ => trivial) _ _ _ ended).1.answers .nil
      simp only [execute, ready]
      split
      next outcome after ended => exact answers (.ok outcome) after ended
      next halt after ended => exact answers (.error halt) after ended

end Mainboard.Configuration
