import Mainboard.Proofs.Run.ExitCodes

/-!
# The first failure ends a run

Every call of the engine may fail.  Whichever call of a run it is, also one that
hands cores over, whose batch is then aborted, its failure is the end: nothing
is called after it, and the run gives up with what the engine said and with
nothing else.  So a run that gives up for another reason has had no failure.
-/

namespace Mainboard

/-- An entry says that its call failed, which is an error of the engine. -/
def LedgerEntry.FailedWith (entry : LedgerEntry) (error : Error) : Prop :=
  ∃ message, entry.answer = .error message ∧ error = .engine message

/-- A trace whose halt is a failure of the engine ends with the call that failed. -/
def ReportsLast (trace : List LedgerEntry) (halt : Option Halt) : Prop :=
  ∀ message, halt = some (.failed (.engine message)) →
    ∃ front entry, trace = front ++ [entry] ∧ entry.answer = .error message

theorem composes_reportsLast : Composes ReportsLast where
  empty := by simp [ReportsLast]
  append := by
    intro first later halt _ reported message failed
    obtain ⟨front, entry, rfl, answer⟩ := reported message failed
    exact ⟨first ++ front, entry, (List.append_assoc ..).symm, answer⟩

/-- A trace stops at the first failure, and only at one if it says so. -/
def StopsAtFailure (trace : List LedgerEntry) (halt : Option Halt) : Prop :=
  StopsAt LedgerEntry.FailedWith trace halt ∧ ReportsLast trace halt

/-- Between two calls a trace may stop for any reason but a failure of the engine. -/
theorem stopsAtFailure_nil {halt : Option Halt}
    (other : ∀ message, halt ≠ some (.failed (.engine message))) : StopsAtFailure [] halt :=
  ⟨stopsAt_of_none (by simp), fun message failed => absurd failed (other message)⟩

theorem Action.allowsRuns_stopsAtFailure : AllowsRuns StopsAtFailure where
  toComposes := (composes_stopsAt _).and composes_reportsLast
  answered := by
    intro entry answer given
    refine ⟨stopsAt_singleton ?_, by simp [ReportsLast]⟩
    rintro error ⟨message, failed, -⟩
    cases given.symm.trans failed
  failed := by
    intro entry message given
    constructor
    · apply stopsAt_singleton
      rintro error ⟨other, failed, rfl⟩
      rw [Except.error.inj (given.symm.trans failed)]
    · intro other same
      obtain rfl : message = other := by simpa using same
      exact ⟨[], entry, rfl, given⟩
  refused _ _ := stopsAtFailure_nil (by simp)
  impatient := stopsAtFailure_nil (by simp)
  offFirst _ _ _ _ := stopsAtFailure_nil (by simp)

/-- What is left of a run that stops at the first failure of its engine. -/
structure Report.IsFailStop {σ : Type} (report : Report σ) : Prop where
  /-- A call that fails is the last one, and its failure is the result. -/
  last : ∀ front entry later message, report.ledger = front ++ entry :: later →
    entry.answer = .error message →
    later = [] ∧ report.result = .error (.failed (.engine message))
  /-- The result is a failure of the engine only if the last call failed with it. -/
  reported : ∀ message, report.result = .error (.failed (.engine message)) →
    ∃ front entry, report.ledger = front ++ [entry] ∧ entry.answer = .error message
  /-- With any other result every call has succeeded. -/
  succeeded : (∀ message, report.result ≠ .error (.failed (.engine message))) →
    ∀ entry ∈ report.ledger, ∃ answer, entry.answer = .ok answer

theorem Report.isFailStop {σ : Type} {report : Report σ}
    (stops : StopsAtFailure report.ledger (Action.halt? report.result)) : report.IsFailStop := by
  obtain ⟨stops, reported⟩ := stops
  have last : ∀ front entry later message, report.ledger = front ++ entry :: later →
      entry.answer = .error message →
      later = [] ∧ report.result = .error (.failed (.engine message)) := by
    intro front entry later message split failed
    obtain ⟨final, halted⟩ := stops front entry later _ split ⟨message, failed, rfl⟩
    exact ⟨final, Action.halt?_eq_some_iff.mp halted⟩
  refine ⟨last, fun message failed => reported message (Action.halt?_eq_some_iff.mpr failed), ?_⟩
  intro other entry member
  obtain ⟨front, later, split⟩ := List.append_of_mem member
  cases given : entry.answer with
  | ok answer => exact ⟨answer, rfl⟩
  | error message => exact absurd (last front entry later message split given).2 (other message)

/-- A script whose engine does not hand cores over. -/
def Script.failsToSwitch : Script where
  failures := [⟨"switch", 0, "no state to hand over"⟩]

namespace Configuration

/-- Whatever machine is executed on whatever engine, the first call that fails is the last one,
and the result is its failure.  With any other result no call has failed, of all those that the
engine was asked. -/
theorem execute_isFailStop {σ : Type} (engine : Engine σ) (patience : Nat)
    (configuration : Configuration) (state : σ) :
    engine.Answers state (configuration.execute engine patience state).ledger
        (configuration.execute engine patience state).engine ∧
      (configuration.execute engine patience state).IsFailStop := by
  refine ⟨answers_execute engine patience configuration state, Report.isFailStop ?_⟩
  cases ready : configuration.prepare with
  | error error =>
      rw [execute_of_unprepared ready]
      apply stopsAtFailure_nil
      rintro message failed
      obtain rfl : error = .engine message := by simpa [Action.halt?] using failed
      cases configuration.failsEarly_prepare _ ready
  | ok prepared =>
      obtain ⟨after, ended, ledgerEq⟩ := exists_ends_of_prepare engine patience state ready
      obtain ⟨trace, traceEq, stops⟩ := Action.allowsRuns_stopsAtFailure.leaves_run _ _ _ ended
      obtain rfl : after.ledger = trace := traceEq
      rwa [ledgerEq]

/-- A phase on the second fidelity. -/
def secondPhase : Configuration where
  run := { phases := [⟨.timing, none⟩] }

/-- What an engine fails to hand over is the last thing it is asked for. -/
theorem execute_isFailStop_secondPhase :
    ∃ front entry,
      (secondPhase.execute (Script.engine .failsToSwitch) 2 (.ofScript .failsToSwitch)).ledger =
        front ++ [entry] ∧
      entry.answer = .error "no state to hand over" ∧ front.length = 1 := by
  have failed : (secondPhase.execute (Script.engine .failsToSwitch) 2
      (.ofScript .failsToSwitch)).result = .error (.failed (.engine "no state to hand over")) := rfl
  have calls : (secondPhase.execute (Script.engine .failsToSwitch) 2
      (.ofScript .failsToSwitch)).ledger.length = 2 := rfl
  obtain ⟨front, entry, split, answer⟩ :=
    (execute_isFailStop (Script.engine .failsToSwitch) 2 secondPhase _).2.reported _ failed
  refine ⟨front, entry, split, answer, ?_⟩
  rw [split, List.length_append, List.length_singleton] at calls
  exact Nat.succ.inj calls

end Configuration

end Mainboard
