import Mainboard.Proofs.Run.Preparation
import Mainboard.Proofs.Run.WarmUps

/-!
# Requests for checkpoints

A stretch of simulation may end with a request for a checkpoint.  In its phases
a run honours every request before it simulates any further, by one checkpoint
in a directory named by the tick, and its outcome lists these directories.  In
its warm-up it does not: a quantum that ends with a request counts like one
whose budget ran out.
-/

namespace Mainboard

namespace LedgerEntry

/-- Whether an entry is a stretch that ended with a request for a checkpoint. -/
def isRequest : LedgerEntry → Bool
  | ⟨.simulate _, .ok event, _, _⟩ => ExitEvent.isCheckpointRequest event
  | _ => false

/-- The directory of the checkpoint that the engine has written, in an entry that says so. -/
def written? : LedgerEntry → Option String
  | ⟨.checkpoint directory, .ok _, _, _⟩ => some directory
  | _ => none

/-- Neither a request nor a checkpoint. -/
structure Quiet (entry : LedgerEntry) : Prop where
  unasked : entry.isRequest = false
  unwritten : entry.written? = none

theorem quiet_of_call {entry : LedgerEntry} (unsimulated : ∀ limit, entry.call ≠ .simulate limit)
    (unsaved : ∀ directory, entry.call ≠ .checkpoint directory) : entry.Quiet := by
  obtain ⟨call, answer, tick, controller⟩ := entry
  cases call with
  | simulate limit => exact absurd rfl (unsimulated limit)
  | checkpoint directory => exact absurd rfl (unsaved directory)
  | instantiate | switchCores | dumpStatistics | resetStatistics => exact ⟨rfl, rfl⟩

end LedgerEntry

/-- Every request of a ledger is honoured: before the next stretch there is one
checkpoint, in the directory named by the tick at which it is written.  There
are no other checkpoints, and their directories are those listed. -/
inductive Honours (below : String) : List LedgerEntry → List String → Prop
  | nil : Honours below [] []
  | quiet {entry : LedgerEntry} {ledger : List LedgerEntry} {directories : List String}
      (quiet : entry.Quiet) (later : Honours below ledger directories) :
      Honours below (entry :: ledger) directories
  | request {request written : LedgerEntry} {between ledger : List LedgerEntry}
      {directories : List String} {directory : String} (asked : request.isRequest)
      (quiet : ∀ entry ∈ between, entry.Quiet) (still : stretches between = [])
      (saved : written.written? = some directory)
      (named : directory = Text.pathBelow below ("cpt." ++ toString written.tick.toNat))
      (later : Honours below ledger directories) :
      Honours below (request :: (between ++ written :: ledger)) (directory :: directories)

namespace Honours

variable {below : String} {first second : List LedgerEntry} {early late : List String}

theorem append (earlier : Honours below first early) (later : Honours below second late) :
    Honours below (first ++ second) (early ++ late) := by
  induction earlier with
  | nil => exact later
  | quiet quiet _ ih => exact ih.quiet quiet
  | request asked quiet still saved named _ ih =>
      simp only [List.cons_append, List.append_assoc]
      exact ih.request asked quiet still saved named

theorem of_quiet {ledger : List LedgerEntry} (quiet : ∀ entry ∈ ledger, entry.Quiet) :
    Honours below ledger [] := by
  induction ledger with
  | nil => exact .nil
  | cons entry ledger ih =>
      obtain ⟨first, rest⟩ := List.forall_mem_cons.mp quiet
      exact (ih rest).quiet first

theorem countP_isRequest {ledger : List LedgerEntry} {directories : List String}
    (honours : Honours below ledger directories) :
    ledger.countP LedgerEntry.isRequest = directories.length := by
  induction honours with
  | nil => rfl
  | quiet quiet _ ih => rw [List.countP_cons_of_neg (by simp [quiet.unasked]), ih]
  | @request request written between ledger directories directory asked quiet _ saved _ _ ih =>
      have none : between.countP LedgerEntry.isRequest = 0 := by
        rw [List.countP_eq_zero]
        intro entry member
        simp [(quiet entry member).unasked]
      have answered : written.isRequest = false := by
        obtain ⟨call, answer, tick, controller⟩ := written
        cases call with
        | checkpoint => rfl
        | simulate | instantiate | switchCores | dumpStatistics | resetStatistics => cases saved
      rw [List.countP_cons_of_pos asked, List.countP_append, none,
        List.countP_cons_of_neg (by simp [answered]), ih, Nat.zero_add, List.length_cons]

end Honours

namespace Action

open Bench

variable {σ : Type} {engine : Engine σ} {before after : Bench σ}

section Checkpoint

/-- A bench at which a checkpoint is tried: the clusters are walked back, if that
is asked for. -/
def Readies (engine : Engine σ) (options : RunOptions) (before ready : Bench σ) : Prop :=
  if options.revertBeforeCheckpoint then Ends (revertAll engine) before (.ok ()) ready
  else ready = before

/-- How it ends to try a checkpoint: a slot is off the first fidelity, or the
engine is called and fails, or it writes the checkpoint. -/
inductive Saves (engine : Engine σ) (options : RunOptions) (ready : Bench σ) :
    Except Halt String → Bench σ → Prop
  | refused {error : Error} (off : ready.controller.ensureCheckpointable = .error error) :
      Saves engine options ready (.error (.failed error)) ready
  | failed {directory message : String}
      (named : directory = options.checkpointDirectory (engine.tick ready.engine))
      (settled : ready.controller.ensureCheckpointable = .ok ())
      (answered : (engine.answer (.checkpoint directory) ready.engine).1 = .error message) :
      Saves engine options ready (.error (.failed (.engine message)))
        (ready.record engine (.checkpoint directory))
  | written {directory : String}
      (named : directory = options.checkpointDirectory (engine.tick ready.engine))
      (settled : ready.controller.ensureCheckpointable = .ok ())
      (answered : (engine.answer (.checkpoint directory) ready.engine).1 = .ok ()) :
      Saves engine options ready (.ok directory) (ready.record engine (.checkpoint directory))

theorem saves_of_ends {options : RunOptions} {result : Except Halt String}
    (ended : Ends (do
      ensureCheckpointable
      let directory := options.checkpointDirectory (engine.tick (← get).engine)
      let _ ← Action.call engine (.checkpoint directory)
      return directory) before result after) : Saves engine options before result after := by
  obtain ⟨halt, rfl, refused⟩ | ⟨_, middle, passed, onward⟩ := ends_bind_iff.mp ended
  · rw [ensureCheckpointable, ends_get_bind_iff, ends_ofExcept_iff] at refused
    obtain ⟨same, rfl⟩ := refused
    obtain ⟨error, off, rfl⟩ := Except.mapError_eq_error_iff.mp same.symm
    exact .refused off
  rw [ensureCheckpointable, ends_get_bind_iff, ends_ofExcept_iff] at passed
  obtain ⟨ok, rfl⟩ := passed
  have settled := Except.mapError_eq_ok_iff.mp ok.symm
  obtain ⟨halt, rfl, failed⟩ | ⟨_, last, called, done⟩ :=
    ends_bind_iff.mp (ends_get_bind_iff.mp onward)
  · obtain ⟨same, rfl⟩ := ends_call_iff.mp failed
    obtain ⟨message, answered, rfl⟩ := Except.mapError_eq_error_iff.mp same.symm
    exact .failed rfl settled answered
  · obtain ⟨answered, rfl⟩ := ends_call_ok_iff.mp called
    obtain ⟨rfl, rfl⟩ := ends_pure_iff.mp done
    exact .written rfl settled answered

/-- A checkpoint fails on the way back, or it is tried. -/
theorem ends_checkpoint {options : RunOptions} {result : Except Halt String}
    (ended : Ends (checkpoint engine options) before result after) :
    (∃ halt, options.revertBeforeCheckpoint = true ∧ result = .error halt ∧
        Ends (revertAll engine) before (.error halt) after) ∨
      ∃ ready, Readies engine options before ready ∧ Saves engine options ready result after := by
  rw [checkpoint] at ended
  split at ended
  next reverts =>
    obtain ⟨halt, rfl, failed⟩ | ⟨_, ready, reverted, onward⟩ := ends_bind_iff.mp ended
    · exact .inl ⟨halt, reverts, rfl, failed⟩
    · exact .inr ⟨ready, by rwa [Readies, if_pos reverts], saves_of_ends onward⟩
  next stays => exact .inr ⟨before, by rw [Readies, if_neg stays], saves_of_ends ended⟩

/-- On the way to a checkpoint nothing is simulated and none is written. -/
theorem exists_rest_of_readies {options : RunOptions} {ready : Bench σ}
    (readied : Readies engine options before ready) :
    ∃ rest, ready.ledger = before.ledger ++ rest ∧ ∀ entry ∈ rest,
      (∀ limit, entry.call ≠ .simulate limit) ∧ ∀ directory, entry.call ≠ .checkpoint directory := by
  rw [Readies] at readied
  split at readied
  · have switches : Stepwise engine (fun call => (∀ limit, call ≠ .simulate limit) ∧
        ∀ directory, call ≠ .checkpoint directory) (revertAll engine) :=
      stepwise_revertAll (by simp)
    exact (switches readied).1.exists_rest
  · subst readied
    exact ⟨[], by simp, by simp⟩

end Checkpoint

section Phases

/-- An action that neither simulates nor writes checkpoints has nothing to honour. -/
theorem Stepwise.honours {α : Type} {action : Action σ α} {result : Except Halt α}
    (stepwise : Stepwise engine (fun call => (∀ limit, call ≠ .simulate limit) ∧
      ∀ directory, call ≠ .checkpoint directory) action)
    (ended : Ends action before result after) (below : String) :
    ∃ rest, after.ledger = before.ledger ++ rest ∧ Honours below rest [] := by
  obtain ⟨rest, ledgerEq, made⟩ := (stepwise ended).1.exists_rest
  exact ⟨rest, ledgerEq, .of_quiet fun entry member =>
    LedgerEntry.quiet_of_call (made entry member).1 (made entry member).2⟩

theorem honours_of_enter {fidelity : CoreModel} {result : Except Halt Unit}
    (ended : Ends (enter engine fidelity) before result after) (below : String) :
    ∃ rest, after.ledger = before.ledger ++ rest ∧ Honours below rest [] :=
  Stepwise.honours (stepwise_enter fidelity (by simp)) ended below

/-- What a phase does once it has been asked for a checkpoint. -/
def resume (engine : Engine σ) (options : RunOptions) (phase : Phase) (patience : Nat) :
    Action σ (List String × ExitEvent) := do
  let directory ← checkpoint engine options
  enter engine phase.fidelity
  let ending ← simulatePhase engine options phase patience
  return (directory :: ending.1, ending.2)

/-- A phase is over with a stretch that does not end with a request, and else it is resumed. -/
theorem ends_simulatePhase_succ {options : RunOptions} {phase : Phase} {patience : Nat}
    {result : Except Halt (List String × ExitEvent)}
    (ended : Ends (simulatePhase engine options phase (patience + 1)) before result after) :
    ((before.entry engine (.simulate phase.ticks)).isRequest = false ∧
        after = before.record engine (.simulate phase.ticks) ∧
        ∀ value, result = .ok value → value.1 = []) ∨
      ((before.entry engine (.simulate phase.ticks)).isRequest = true ∧
        Ends (resume engine options phase patience)
          (before.record engine (.simulate phase.ticks)) result after) := by
  rw [simulatePhase] at ended
  obtain ⟨halt, rfl, failed⟩ | ⟨event, middle, called, onward⟩ := ends_bind_iff.mp ended
  · obtain ⟨same, rfl⟩ := ends_call_iff.mp failed
    obtain ⟨message, answered, rfl⟩ := Except.mapError_eq_error_iff.mp same.symm
    refine .inl ⟨?_, rfl, by simp⟩
    simp only [entry, LedgerEntry.isRequest, answered]
  obtain ⟨answered, rfl⟩ := ends_call_ok_iff.mp called
  have asks : (before.entry engine (.simulate phase.ticks)).isRequest =
      event.isCheckpointRequest := by
    simp only [entry, LedgerEntry.isRequest, answered]
  split at onward
  next unasked =>
    obtain ⟨rfl, rfl⟩ := ends_pure_iff.mp onward
    refine .inl ⟨by simpa [asks] using unasked, rfl, ?_⟩
    intro value same
    exact congrArg Prod.fst (Except.ok.inj same).symm
  next asked => exact .inr ⟨by simpa [asks] using asked, onward⟩

theorem honours_of_simulatePhase {options : RunOptions} {phase : Phase} {patience : Nat}
    {value : List String × ExitEvent}
    (ended : Ends (simulatePhase engine options phase patience) before (.ok value) after) :
    ∃ rest, after.ledger = before.ledger ++ rest ∧ Honours options.directory rest value.1 := by
  induction patience generalizing before value with
  | zero => cases (ends_throw_iff.mp ended).1
  | succ patience ih =>
      let request := before.entry engine (.simulate phase.ticks)
      obtain ⟨unasked, rfl, none⟩ | ⟨asked, resumed⟩ := ends_simulatePhase_succ ended
      · have quiet : request.Quiet := ⟨unasked, rfl⟩
        exact ⟨[request], rfl, none value rfl ▸ Honours.nil.quiet quiet⟩
      -- A stretch with a request is honoured before the phase is entered again.
      obtain ⟨directory, saved, checked, onward⟩ := ends_bind_ok_iff.mp resumed
      obtain ⟨_, entered, entering, onward⟩ := ends_bind_ok_iff.mp onward
      obtain ⟨ending, last, again, done⟩ := ends_bind_ok_iff.mp onward
      obtain ⟨rfl, rfl⟩ := ends_pure_ok_iff.mp done
      obtain ⟨halt, -, impossible, -⟩ | ⟨ready, readied, saves⟩ := ends_checkpoint checked
      · cases impossible
      cases saves with
      | written named settled written =>
          obtain ⟨between, betweenEq, made⟩ := exists_rest_of_readies readied
          obtain ⟨entry, entryEq, entryHonours⟩ := honours_of_enter entering options.directory
          obtain ⟨rest, restEq, restHonours⟩ := ih again
          let checkpoint := ready.entry engine (.checkpoint directory)
          have saved : checkpoint.written? = some directory := by
            simp only [checkpoint, Bench.entry, LedgerEntry.written?, written]
          have quiet : ∀ entry ∈ between, entry.Quiet := fun entry member =>
            LedgerEntry.quiet_of_call (made entry member).1 (made entry member).2
          have still : stretches between = [] :=
            stretches_eq_nil fun entry member => (made entry member).1
          refine ⟨request :: (between ++ checkpoint :: (entry ++ rest)), ?_,
            .request asked quiet still saved named (entryHonours.append restHonours)⟩
          simp [restEq, entryEq, betweenEq, request, checkpoint]

theorem honours_of_runPhases {options : RunOptions} {patience : Nat} {phases : List Phase}
    {earlier : ExitEvent} {value : List String × ExitEvent}
    (ended : Ends (runPhases engine options patience phases earlier) before (.ok value) after) :
    ∃ rest, after.ledger = before.ledger ++ rest ∧ Honours options.directory rest value.1 := by
  induction phases generalizing before earlier value with
  | nil =>
      obtain ⟨rfl, rfl⟩ := ends_pure_ok_iff.mp ended
      exact ⟨[], by simp, .nil⟩
  | cons phase phases ih =>
      rw [runPhases] at ended
      obtain ⟨_, middle, entered, onward⟩ := ends_bind_ok_iff.mp ended
      obtain ⟨ending, last, simulated, onward⟩ := ends_bind_ok_iff.mp onward
      obtain ⟨first, firstEq, firstHonours⟩ := honours_of_enter entered options.directory
      obtain ⟨phased, phasedEq, phasedHonours⟩ := honours_of_simulatePhase simulated
      have honours : Honours options.directory (first ++ phased) ending.1 :=
        firstHonours.append phasedHonours
      dsimp only at onward
      split at onward
      · obtain ⟨final, stop, resumed, done⟩ := ends_bind_ok_iff.mp onward
        obtain ⟨rfl, rfl⟩ := ends_pure_ok_iff.mp done
        obtain ⟨later, laterEq, laterHonours⟩ := ih resumed
        exact ⟨first ++ phased ++ later, by simp [laterEq, phasedEq, firstEq],
          honours.append laterHonours⟩
      · obtain ⟨rfl, rfl⟩ := ends_pure_ok_iff.mp onward
        exact ⟨first ++ phased, by simp [phasedEq, firstEq], honours⟩

theorem honours_of_afterWarmUp {options : RunOptions} {patience : Nat} {exited : Option ExitEvent}
    {value : List String × ExitEvent}
    (ended : Ends (afterWarmUp engine options patience exited) before (.ok value) after) :
    ∃ rest, after.ledger = before.ledger ++ rest ∧ Honours options.directory rest value.1 := by
  cases exited with
  | none => exact honours_of_runPhases (ends_get_bind_iff.mp ended)
  | some event =>
      obtain ⟨rfl, rfl⟩ := ends_pure_ok_iff.mp ended
      exact ⟨[], by simp, .nil⟩

/-- From its phases on a run honours every request. -/
theorem honours_of_closing {options : RunOptions} {patience : Nat}
    {opened : Nat × Option ExitEvent} {outcome : Outcome}
    (ended : Ends (closing engine options patience opened) before (.ok outcome) after) :
    outcome.warmupQuanta = opened.1 ∧ ∃ rest, after.ledger = before.ledger ++ rest ∧
      Honours options.directory rest outcome.checkpoints := by
  obtain ⟨value, middle, phased, onward⟩ := ends_bind_ok_iff.mp ended
  obtain ⟨count, last, counted, done⟩ := ends_bind_ok_iff.mp onward
  obtain ⟨-, rfl⟩ := ends_call_ok_iff.mp counted
  obtain ⟨rfl, rfl⟩ := ends_pure_ok_iff.mp done
  obtain ⟨rest, ledgerEq, honours⟩ := honours_of_afterWarmUp phased
  have quiet : (middle.entry engine .dumpStatistics).Quiet := ⟨rfl, rfl⟩
  refine ⟨rfl, rest ++ [middle.entry engine .dumpStatistics], by simp [ledgerEq], ?_⟩
  simpa using honours.append (Honours.nil.quiet quiet)

end Phases

section WarmUp

/-- The stretches before the phases of a run are the quanta of its warm-up. -/
theorem length_stretches_of_opening {topology : Topology} {options : RunOptions} {patience : Nat}
    {opened : Nat × Option ExitEvent}
    (ended : Ends (opening engine topology options patience) before (.ok opened) after) :
    ∃ rest, after.ledger = before.ledger ++ rest ∧ (stretches rest).length = opened.1 := by
  obtain ⟨built, quanta, resets, ledgerEq, instantiates, counted, -, calls⟩ :=
    warmsUp_of_opening ended
  have first : stretches [built] = [] :=
    stretches_eq_nil fun entry member => by simp [List.mem_singleton.mp member, instantiates]
  have last : stretches resets = [] := by
    refine stretches_eq_nil fun entry member limit simulates => ?_
    have made := List.mem_map_of_mem (f := (·.call)) member
    rw [calls, simulates] at made
    split at made <;> simp at made
  refine ⟨_, ledgerEq, ?_⟩
  rw [← List.singleton_append, stretches_append, stretches_append, first, last, List.append_nil,
    List.nil_append, Quantum.length_stretches_flatMap_entries, counted]

end WarmUp

end Action

/-- A script that asks for a checkpoint after the first stretch and after the second. -/
def Script.asksTwice : Script where
  events := [.checkpointRequest, .checkpointRequest]
  instructionsPerStretch := 1
  ticksPerStretch := 50

namespace Configuration

/-- The default machine with a warm-up of one instruction, which takes one quantum. -/
def askedTwice : Configuration where
  run := { warmupInstructions := some 1, warmupQuantum := 250 }

variable {σ : Type} {configuration : Configuration} {prepared : Prepared}

theorem directory_of_prepare (ready : configuration.prepare = .ok prepared) :
    prepared.options.directory = configuration.run.directory := by
  obtain ⟨-, -, options, made, prepares⟩ := prepare_eq_ok ready
  rw [prepares]
  rw [RunOptions.ofConfiguration] at made
  split at made
  · cases made
  · obtain rfl := Except.ok.inj made
    rfl

/-- A run that ends well honours every request of its phases.  The quanta of its
warm-up come before, without a checkpoint, so that all of its requests are
honoured if and only if none of these quanta ends with one. -/
theorem execute_honours_requests (engine : Engine σ) (patience : Nat)
    (configuration : Configuration) (state : σ) {outcome : Outcome}
    (ended : (configuration.execute engine patience state).result = .ok outcome) :
    ∃ warmup phases,
      (configuration.execute engine patience state).ledger = warmup ++ phases ∧
      (stretches warmup).length = outcome.warmupQuanta ∧
      (∀ entry ∈ warmup, ∀ directory, entry.call ≠ .checkpoint directory) ∧
      Honours configuration.run.directory phases outcome.checkpoints ∧
      (Honours configuration.run.directory (configuration.execute engine patience state).ledger
          outcome.checkpoints ↔
        ∀ entry ∈ warmup, entry.isRequest = false) := by
  cases ready : configuration.prepare with
  | error error => simp [execute, ready] at ended
  | ok prepared =>
      obtain ⟨after, ending, ledgerEq⟩ := exists_ends_of_prepare engine patience state ready
      rw [ended] at ending
      rw [ledgerEq, ← directory_of_prepare ready]
      obtain ⟨halt, impossible, -⟩ | ⟨opened, warmed, opens, closes⟩ := Action.ends_run ending
      · cases impossible
      obtain ⟨warmup, warmupEq, quanta⟩ := Action.length_stretches_of_opening opens
      obtain ⟨counted, phases, phasesEq, honours⟩ := Action.honours_of_closing closes
      obtain ⟨made, madeEq, calls⟩ := (Action.stepwise_opening _ _ _ opens).1.exists_rest
      obtain rfl := List.append_cancel_left (warmupEq.symm.trans madeEq)
      have unsaved : ∀ entry ∈ warmup, ∀ directory, entry.call ≠ .checkpoint directory :=
        fun entry member => (calls entry member).1
      have whole : after.ledger = warmup ++ phases := by rw [phasesEq, warmupEq, List.nil_append]
      refine ⟨warmup, phases, whole, by rw [quanta, counted], unsaved, honours, ?_⟩
      rw [whole]
      constructor
      · -- There are as many requests as directories, and the phases account for all of these.
        intro all
        have count := all.countP_isRequest
        rw [List.countP_append, honours.countP_isRequest, Nat.add_eq_right,
          List.countP_eq_zero] at count
        simpa using count
      · intro unasked
        have quiet : ∀ entry ∈ warmup, entry.Quiet := by
          intro entry member
          refine ⟨unasked entry member, ?_⟩
          obtain ⟨call, answer, tick, controller⟩ := entry
          cases call with
          | checkpoint directory => exact absurd rfl (unsaved _ member directory)
          | instantiate | simulate | switchCores | dumpStatistics | resetStatistics => rfl
        exact (Honours.of_quiet quiet).append honours

/-- An outcome with its calls: a quantum that ends with a request, and a stretch that does. -/
theorem execute_askedTwice :
    ∃ outcome, (askedTwice.execute (Script.engine .asksTwice) 8 (.ofScript .asksTwice)).result =
        .ok outcome ∧ outcome.checkpoints = ["m5out/cpt.300"] := by
  have runs : (askedTwice.execute (Script.engine .asksTwice) 8
      (.ofScript .asksTwice)).result.toOption.map (·.checkpoints) = some ["m5out/cpt.300"] := by
    decide +kernel
  obtain ⟨outcome, ended, checkpoints⟩ := Option.map_eq_some_iff.mp runs
  refine ⟨outcome, ?_, checkpoints⟩
  cases result : (askedTwice.execute (Script.engine .asksTwice) 8 (.ofScript .asksTwice)).result with
  | ok value =>
      rw [result] at ended
      exact congrArg Except.ok (Option.some.inj ended)
  | error halt =>
      rw [result] at ended
      cases ended

/-- Of two requests the one in the warm-up is not honoured, and the one in the phase is. -/
theorem execute_honours_requests_askedTwice :
    ∃ outcome warmup phases,
      (askedTwice.execute (Script.engine .asksTwice) 8 (.ofScript .asksTwice)).result =
        .ok outcome ∧
      (askedTwice.execute (Script.engine .asksTwice) 8 (.ofScript .asksTwice)).ledger =
        warmup ++ phases ∧
      outcome.checkpoints = ["m5out/cpt.300"] ∧
      Honours askedTwice.run.directory phases outcome.checkpoints := by
  obtain ⟨outcome, ended, checkpoints⟩ := execute_askedTwice
  obtain ⟨warmup, phases, ledgerEq, -, -, honours, -⟩ :=
    execute_honours_requests (Script.engine .asksTwice) 8 askedTwice (.ofScript .asksTwice) ended
  exact ⟨outcome, warmup, phases, ended, ledgerEq, checkpoints, honours⟩

/-- Not every run that ends well honours all of its requests. -/
theorem not_honours_askedTwice :
    ∃ outcome,
      (askedTwice.execute (Script.engine .asksTwice) 8 (.ofScript .asksTwice)).result =
        .ok outcome ∧
      ¬ Honours askedTwice.run.directory
        (askedTwice.execute (Script.engine .asksTwice) 8 (.ofScript .asksTwice)).ledger
        outcome.checkpoints := by
  obtain ⟨outcome, ended, checkpoints⟩ := execute_askedTwice
  refine ⟨outcome, ended, fun honours => ?_⟩
  have requests : (askedTwice.execute (Script.engine .asksTwice) 8
      (.ofScript .asksTwice)).ledger.countP LedgerEntry.isRequest = 2 := by
    decide +kernel
  have written := honours.countP_isRequest
  rw [requests, checkpoints] at written
  cases written

end Configuration

end Mainboard
