import Mainboard.Proofs.Bench.Steps

/-!
# Traces of actions

An action leaves a trace: the entries that it adds to the ledger and, if it
gives up, the halt.  A property of traces composes if it holds of the empty
trace and of a whole whose parts it holds of, the parts before the last being
without a halt.  Such a property has to be proved of single calls and of the
reasons to give up between two calls only; the lemmas here pass it on to the
actions that are made of them.  Missing clusters are not among these reasons:
actions on a cluster are followed at benches where the cluster is, and a run
walks no others.
-/

namespace Mainboard

/-- A property of traces that passes from parts to the whole. -/
structure Composes (holds : List LedgerEntry → Option Halt → Prop) : Prop where
  empty : holds [] none
  append : ∀ {first later : List LedgerEntry} {halt : Option Halt},
    holds first none → holds later halt → holds (first ++ later) halt

/-- What holds of every entry composes. -/
theorem composes_forall_mem (good : LedgerEntry → Prop) :
    Composes fun trace _ => ∀ entry ∈ trace, good entry where
  empty := by simp
  append := by
    intro first later _ earlier rest entry member
    exact (List.mem_append.mp member).elim (earlier entry) (rest entry)

/-- What holds of the halt, if there is one, composes. -/
theorem composes_forall_halt (allowed : Halt → Prop) :
    Composes fun _ halt => ∀ reason, halt = some reason → allowed reason where
  empty := by simp
  append _ later := later

/-- Two properties that compose do so together. -/
theorem Composes.and {one other : List LedgerEntry → Option Halt → Prop} (first : Composes one)
    (second : Composes other) : Composes fun trace halt => one trace halt ∧ other trace halt where
  empty := ⟨first.empty, second.empty⟩
  append := by
    rintro earlier later halt ⟨oneEarlier, otherEarlier⟩ ⟨oneLater, otherLater⟩
    exact ⟨first.append oneEarlier oneLater, second.append otherEarlier otherLater⟩

/-- An entry that stops with an error is the end of a trace, and the error its halt. -/
def StopsAt (stops : LedgerEntry → Error → Prop) (trace : List LedgerEntry)
    (halt : Option Halt) : Prop :=
  ∀ front entry later error, trace = front ++ entry :: later → stops entry error →
    later = [] ∧ halt = some (.failed error)

section Stops

variable {stops : LedgerEntry → Error → Prop} {trace : List LedgerEntry} {halt : Option Halt}

theorem stopsAt_of_none (none : ∀ entry ∈ trace, ∀ error, ¬ stops entry error) :
    StopsAt stops trace halt := by
  intro front entry later error split stopped
  exact absurd stopped (none entry (by simp [split]) error)

theorem stopsAt_singleton {entry : LedgerEntry}
    (stopped : ∀ error, stops entry error → halt = some (.failed error)) :
    StopsAt stops [entry] halt := by
  intro front other later error split stopping
  obtain ⟨rfl, same⟩ | ⟨rest, -, impossible⟩ := List.cons_eq_append_iff.mp split
  · obtain ⟨rfl, rfl⟩ := List.cons.inj same
    exact ⟨rfl, stopped error stopping⟩
  · simp at impossible

/-- An entry that stops is in the last part of a trace: the parts before have no halt. -/
theorem composes_stopsAt (stops : LedgerEntry → Error → Prop) : Composes (StopsAt stops) where
  empty := stopsAt_of_none (by simp)
  append := by
    intro first later halt earlier rest front entry after error split stopped
    obtain ⟨middle, rfl, laterEq⟩ | ⟨middle, firstEq, afterEq⟩ := List.append_eq_append_iff.mp split
    · exact rest middle entry after error laterEq stopped
    · cases middle with
      | nil => exact rest [] entry after error afterEq.symm stopped
      | cons other middle =>
          -- In the first part nothing stops, since that part has no halt.
          obtain ⟨rfl, rfl⟩ := List.cons.inj afterEq
          obtain ⟨-, impossible⟩ := earlier front entry middle error firstEq stopped
          cases impossible

end Stops

namespace Action

open Bench

variable {σ α β : Type} {engine : Engine σ} {calls : Call → Prop}
variable {holds : List LedgerEntry → Option Halt → Prop}

/-- The halt of a result, if it is one. -/
def halt? : Except Halt α → Option Halt
  | .ok _ => none
  | .error halt => some halt

theorem halt?_eq_some_iff {result : Except Halt α} {halt : Halt} :
    halt? result = some halt ↔ result = .error halt := by
  cases result with
  | ok value => simp [halt?]
  | error other => simp [halt?]

/-- An action leaves traces with a property, whatever bench it is started at. -/
def Leaves (holds : List LedgerEntry → Option Halt → Prop) (action : Action σ α) : Prop :=
  ∀ ⦃before result after⦄, Ends action before result after →
    ∃ trace, after.ledger = before.ledger ++ trace ∧ holds trace (halt? result)

section Closure

variable {action : Action σ α} {next : α → Action σ β}

theorem Leaves.pure (composes : Composes holds) (value : α) :
    Leaves holds (pure value : Action σ α) := by
  intro before result after ended
  obtain ⟨rfl, rfl⟩ := ends_pure_iff.mp ended
  exact ⟨[], by simp, composes.empty⟩

theorem Leaves.throw {halt : Halt} (stopped : holds [] (some halt)) :
    Leaves holds (throw halt : Action σ α) := by
  intro before result after ended
  obtain ⟨rfl, rfl⟩ := ends_throw_iff.mp ended
  exact ⟨[], by simp, stopped⟩

theorem Leaves.bind (composes : Composes holds) (first : Leaves holds action)
    (rest : ∀ value, Leaves holds (next value)) : Leaves holds (action >>= next) := by
  intro before result after ended
  obtain ⟨halt, rfl, stopped⟩ | ⟨value, middle, reached, continued⟩ := ends_bind_iff.mp ended
  · exact first stopped
  · obtain ⟨earlier, middleEq, holdsEarlier⟩ := first reached
    obtain ⟨later, afterEq, holdsLater⟩ := rest value continued
    exact ⟨earlier ++ later, by rw [afterEq, middleEq, List.append_assoc],
      composes.append holdsEarlier holdsLater⟩

theorem Leaves.getBind {next : Bench σ → Action σ β} (rest : ∀ bench, Leaves holds (next bench)) :
    Leaves holds (get >>= next) :=
  fun before _ _ ended => rest before (ends_get_bind_iff.mp ended)

/-- An action whose calls are of some kind leaves every trace of such calls may be. -/
theorem Stepwise.leaves (stepwise : Stepwise engine calls action)
    (holds_of : ∀ trace halt, (∀ entry ∈ trace, calls entry.call) → holds trace halt) :
    Leaves holds action := by
  intro before result after ended
  obtain ⟨trace, ledgerEq, made⟩ := (stepwise ended).1.exists_rest
  exact ⟨trace, ledgerEq, holds_of trace _ made⟩

end Closure

section Switches

/-- What a property of traces is to allow for before clusters are walked: single calls
with their answers, and the reasons to give up between two calls. -/
structure AllowsSwitches (holds : List LedgerEntry → Option Halt → Prop) : Prop
    extends Composes holds where
  answered : ∀ {entry : LedgerEntry} {answer : entry.call.Answer},
    entry.answer = .ok answer → holds [entry] none
  failed : ∀ {entry : LedgerEntry} {message : String},
    entry.answer = .error message → holds [entry] (some (.failed (.engine message)))
  refused : ∀ cluster fault, holds [] (some (.failed (.switch cluster fault)))
  impatient : holds [] (some .outOfPatience)

/-- An action on a cluster leaves traces with a property at benches where the cluster is. -/
def LeavesOn (cluster : Nat) (holds : List LedgerEntry → Option Halt → Prop)
    (action : Action σ α) : Prop :=
  ∀ ⦃before result after⦄, cluster < before.controller.sets.length →
    Ends action before result after →
    ∃ trace, after.ledger = before.ledger ++ trace ∧ holds trace (halt? result)

/-- The clusters are still there for the second of two actions. -/
theorem LeavesOn.bind {cluster : Nat} {action : Action σ α} {next : α → Action σ β}
    (composes : Composes holds) (stepwise : Stepwise engine (fun _ => True) action)
    (first : LeavesOn cluster holds action)
    (rest : ∀ value, LeavesOn cluster holds (next value)) :
    LeavesOn cluster holds (action >>= next) := by
  intro before result after there ended
  obtain ⟨halt, rfl, stopped⟩ | ⟨value, middle, reached, continued⟩ := ends_bind_iff.mp ended
  · exact first there stopped
  · obtain ⟨earlier, middleEq, holdsEarlier⟩ := first there reached
    have still : cluster < middle.controller.sets.length := by
      rwa [(stepwise reached).1.length_sets]
    obtain ⟨later, afterEq, holdsLater⟩ := rest value still continued
    exact ⟨earlier ++ later, by rw [afterEq, middleEq, List.append_assoc],
      composes.append holdsEarlier holdsLater⟩

/-- A loop over clusters that are there leaves what its rounds leave. -/
theorem exists_trace_of_forM {body : Nat → Action σ PUnit} {clusters : List Nat}
    {before after : Bench σ} {result : Except Halt PUnit} (composes : Composes holds)
    (stepwise : ∀ cluster, Stepwise engine (fun _ => True) (body cluster))
    (round : ∀ cluster, LeavesOn cluster holds (body cluster))
    (there : ∀ cluster ∈ clusters, cluster < before.controller.sets.length)
    (ended : Ends (clusters.forM body) before result after) :
    ∃ trace, after.ledger = before.ledger ++ trace ∧ holds trace (halt? result) := by
  induction clusters generalizing before with
  | nil => exact Leaves.pure composes _ ended
  | cons cluster clusters ih =>
      obtain ⟨first, others⟩ := List.forall_mem_cons.mp there
      obtain ⟨halt, rfl, stopped⟩ | ⟨_, middle, reached, continued⟩ := ends_bind_iff.mp ended
      · exact round cluster first stopped
      · obtain ⟨earlier, middleEq, holdsEarlier⟩ := round cluster first reached
        have still : ∀ other ∈ clusters, other < middle.controller.sets.length := by
          rwa [(stepwise cluster reached).1.length_sets]
        obtain ⟨later, afterEq, holdsLater⟩ := ih still continued
        exact ⟨earlier ++ later, by rw [afterEq, middleEq, List.append_assoc],
          composes.append holdsEarlier holdsLater⟩

variable (allows : AllowsSwitches holds)
include allows

theorem AllowsSwitches.leaves_call (call : Call) : Leaves holds (Action.call engine call) := by
  intro before result after ended
  obtain ⟨rfl, rfl⟩ := ends_call_iff.mp ended
  refine ⟨[before.entry engine call], rfl, ?_⟩
  cases given : (engine.answer call before.engine).1 with
  | ok answer => exact allows.answered given
  | error message => exact allows.failed given

theorem leavesOn_slotSet (cluster : Nat) :
    LeavesOn cluster holds (slotSet cluster : Action σ SlotSet) := by
  intro before result after there ended
  obtain ⟨rfl, rfl⟩ := ends_slotSet_iff.mp ended
  refine ⟨[], by simp, ?_⟩
  cases found : after.controller.set cluster with
  | ok set => exact allows.empty
  | error error => exact absurd found (Controller.set_ne_error there error)

theorem leavesOn_switchSlots (cluster : Nat) (requests : List (Nat × CoreModel)) :
    LeavesOn cluster holds (switchSlots engine cluster requests) := by
  intro before result after there ended
  obtain ⟨error, refused, rfl, rfl⟩ | ⟨batch, -, -, completed⟩ := ends_switchSlots ended
  · refine ⟨[], by simp, ?_⟩
    obtain missing | ⟨fault, rfl⟩ := Controller.begin_eq_error refused
    · exact absurd missing (Controller.set_ne_error there error)
    · exact allows.refused cluster fault
  · obtain ⟨answered, rfl, rfl⟩ | ⟨message, failed, rfl, rfl⟩ := completed
    · exact ⟨_, rfl, allows.answered answered⟩
    · exact ⟨_, rfl, allows.failed failed⟩

theorem leavesOn_switchTo (cluster : Nat) (target : CoreModel) :
    LeavesOn cluster holds (switchTo engine cluster target) := by
  have found : Stepwise engine (fun _ => True) (slotSet cluster) := stepwise_slotSet cluster
  exact .bind allows.toComposes found (leavesOn_slotSet allows cluster) fun _ =>
    leavesOn_switchSlots allows cluster _

theorem leavesOn_walk (cluster goal : Nat) (target : CoreModel) (rounds done : Nat) :
    LeavesOn cluster holds (walk engine cluster goal target rounds done) := by
  induction rounds generalizing done with
  | zero => exact fun _ _ _ _ ended => Leaves.throw allows.impatient ended
  | succ rounds ih =>
      intro before result after there ended
      obtain ⟨error, missing, -⟩ | ⟨set, found, round⟩ := ends_walk_succ ended
      · exact absurd missing (Controller.set_ne_error there error)
      obtain ⟨-, rfl, rfl⟩ | ⟨-, rfl, rfl⟩ | ⟨source, -, -, onward⟩ := round
      · exact ⟨[], by simp, allows.refused cluster .mixedFidelity⟩
      · exact ⟨[], by simp, allows.empty⟩
      · exact LeavesOn.bind allows.toComposes (stepwise_switchTo cluster _ fun _ _ => trivial)
          (leavesOn_switchTo allows cluster _) (fun _ => ih (done + 1)) there onward

theorem leavesOn_stepToward (cluster : Nat) (target : CoreModel) :
    LeavesOn cluster holds (stepToward engine cluster target) := by
  intro before result after there ended
  obtain ⟨-, rfl, rfl⟩ | ⟨goal, -, walked⟩ := ends_stepToward ended
  · exact ⟨[], by simp, allows.refused cluster (.notInSequence target)⟩
  · exact leavesOn_walk allows cluster goal target _ 0 there walked

/-- Clusters are entered by their numbers, so that none of them is missing. -/
theorem leaves_enter (fidelity : CoreModel) : Leaves holds (enter engine fidelity) := by
  intro before result after ended
  rw [enter, ends_get_bind_iff] at ended
  have steps : ∀ cluster, Stepwise engine (fun _ => True) (stepToward engine cluster fidelity) :=
    fun cluster => stepwise_stepToward cluster fidelity fun _ _ => trivial
  refine exists_trace_of_forM allows.toComposes (fun cluster => .bind (steps cluster) fun _ =>
    .pure _) (fun cluster => ?_) (fun cluster member => List.mem_range.mp member) ended
  exact .bind allows.toComposes (steps cluster) (leavesOn_stepToward allows cluster fidelity)
    fun _ _ _ _ _ done => Leaves.pure allows.toComposes _ done

theorem leaves_revertAll : Leaves holds (revertAll engine) :=
  .getBind fun _ => leaves_enter allows _

end Switches

section Runs

variable {options : RunOptions} {patience : Nat} (composes : Composes holds)
include composes

theorem leaves_warmUpFrom {threshold quantum : UInt64}
    (impatient : holds [] (some .outOfPatience))
    (simulated : Leaves holds (Action.call engine (.simulate (some quantum))))
    (dumped : Leaves holds (Action.call engine .dumpStatistics))
    (reset : Leaves holds (Action.call engine .resetStatistics)) (patience done : Nat) :
    Leaves holds (warmUpFrom engine threshold quantum patience done) := by
  induction patience generalizing done with
  | zero => exact .throw impatient
  | succ patience ih =>
      rw [warmUpFrom]
      refine .bind composes simulated fun event => .bind composes dumped fun committed => ?_
      split
      · exact .pure composes _
      split
      · exact .bind composes reset fun _ => .pure composes _
      · exact ih (done + 1)

theorem leaves_warmUp (impatient : holds [] (some .outOfPatience))
    (simulated : Leaves holds (Action.call engine (.simulate (some options.warmupQuantum))))
    (dumped : Leaves holds (Action.call engine .dumpStatistics))
    (reset : Leaves holds (Action.call engine .resetStatistics)) (patience : Nat) :
    Leaves holds (warmUp engine options patience) := by
  rw [warmUp]
  split
  · exact .pure composes _
  · exact leaves_warmUpFrom composes impatient simulated dumped reset patience 0

/-- A phase leaves what its stretches, its checkpoints and the ways back to its
fidelity leave. -/
theorem leaves_simulatePhase {phase : Phase} (impatient : holds [] (some .outOfPatience))
    (simulated : Leaves holds (Action.call engine (.simulate phase.ticks)))
    (checked : Leaves holds (checkpoint engine options))
    (entered : Leaves holds (enter engine phase.fidelity)) (patience : Nat) :
    Leaves holds (simulatePhase engine options phase patience) := by
  induction patience with
  | zero => exact .throw impatient
  | succ patience ih =>
      rw [simulatePhase]
      refine .bind composes simulated fun event => ?_
      split
      · exact .pure composes _
      · exact .bind composes checked fun _ => .bind composes entered fun _ =>
          .bind composes ih fun _ => .pure composes _

theorem leaves_runPhases (entered : ∀ fidelity, Leaves holds (enter engine fidelity))
    (simulated : ∀ phase, Leaves holds (simulatePhase engine options phase patience))
    (phases : List Phase) (earlier : ExitEvent) :
    Leaves holds (runPhases engine options patience phases earlier) := by
  induction phases generalizing earlier with
  | nil => exact .pure composes _
  | cons phase phases ih =>
      rw [runPhases]
      refine .bind composes (entered phase.fidelity) fun _ =>
        .bind composes (simulated phase) fun ending => ?_
      dsimp only
      split
      · exact .bind composes (ih ending.2) fun _ => .pure composes _
      · exact .pure composes _

theorem leaves_afterWarmUp (entered : ∀ fidelity, Leaves holds (enter engine fidelity))
    (simulated : ∀ phase, Leaves holds (simulatePhase engine options phase patience))
    (exited : Option ExitEvent) : Leaves holds (afterWarmUp engine options patience exited) := by
  cases exited with
  | none => exact .getBind fun _ => leaves_runPhases composes entered simulated _ _
  | some event => exact .pure composes _

/-- A run leaves what its first call, its warm-up, its phases and its last call leave. -/
theorem leaves_run {topology : Topology}
    (built : Leaves holds (Action.call engine
      (.instantiate topology (options.boot.commandLine topology) options.restore)))
    (warmed : Leaves holds (warmUp engine options patience))
    (entered : ∀ fidelity, Leaves holds (enter engine fidelity))
    (simulated : ∀ phase, Leaves holds (simulatePhase engine options phase patience))
    (counted : Leaves holds (Action.call engine .dumpStatistics)) :
    Leaves holds (run engine topology options patience) :=
  .bind composes built fun _ => .bind composes warmed fun _ =>
    .bind composes (leaves_afterWarmUp composes entered simulated _) fun _ =>
      .bind composes counted fun _ => .pure composes _

end Runs

section WholeRuns

/-- What a property of traces is to allow for before a machine is run: besides what is done
between the checkpoints, checkpoints that are refused. -/
structure AllowsRuns (holds : List LedgerEntry → Option Halt → Prop) : Prop
    extends AllowsSwitches holds where
  offFirst : ∀ cluster slot active required,
    holds [] (some (.failed (.checkpointFidelity cluster slot active required)))

variable (allows : AllowsRuns holds) {options : RunOptions}
include allows

theorem leaves_ensureCheckpointable : Leaves holds (ensureCheckpointable : Action σ Unit) := by
  intro before result after ended
  rw [ensureCheckpointable, ends_get_bind_iff, ends_ofExcept_iff] at ended
  obtain ⟨rfl, rfl⟩ := ended
  refine ⟨[], by simp, ?_⟩
  cases check : after.controller.ensureCheckpointable with
  | ok _ => exact allows.empty
  | error error =>
      obtain ⟨cluster, slot, active, required, rfl⟩ := Controller.ensureCheckpointable_eq_error check
      exact allows.offFirst cluster slot active required

theorem leaves_checkpoint : Leaves holds (checkpoint engine options) := by
  have written : Leaves holds (do
      ensureCheckpointable
      let directory := options.checkpointDirectory (engine.tick (← get).engine)
      let _ ← Action.call engine (.checkpoint directory)
      return directory) :=
    .bind allows.toComposes (leaves_ensureCheckpointable allows) fun _ => .getBind fun _ =>
      .bind allows.toComposes (allows.leaves_call _) fun _ => .pure allows.toComposes _
  rw [checkpoint]
  split
  · exact .bind allows.toComposes (leaves_revertAll allows.toAllowsSwitches) fun _ => written
  · exact written

/-- A run leaves what may be left of single calls and of the reasons to give up between them. -/
theorem AllowsRuns.leaves_run (topology : Topology) (options : RunOptions) (patience : Nat) :
    Leaves holds (run engine topology options patience) := by
  have composes := allows.toComposes
  have called : ∀ call, Leaves holds (Action.call engine call) := allows.leaves_call
  have entered : ∀ fidelity, Leaves holds (enter engine fidelity) :=
    leaves_enter allows.toAllowsSwitches
  have warmed : Leaves holds (warmUp engine options patience) :=
    leaves_warmUp composes allows.impatient (called _) (called _) (called _) patience
  have simulated : ∀ phase, Leaves holds (simulatePhase engine options phase patience) :=
    fun phase => leaves_simulatePhase composes allows.impatient (called _)
      (leaves_checkpoint allows) (entered _) patience
  exact Action.leaves_run composes (called _) warmed entered simulated (called _)

end WholeRuns

end Action

end Mainboard
