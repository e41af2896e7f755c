import Mainboard.Engine.Scripted
import Mainboard.Proofs.Switching.Arrivals

/-!
# Runs follow their schedule

What a run simulates after its warm-up comes in blocks, one for each phase that
is reached, in order.  All stretches of a block have the budget of its phase and
are simulated with every slot on its fidelity, and all but the last end with a
request for a checkpoint.  The next block starts only if a budget ran out.
-/

namespace Mainboard

/-- A stretch of simulation: its budget, its answer and the controller during it. -/
structure Stretch where
  limit : Option UInt64
  answer : Except String ExitEvent
  controller : Controller

/-- The stretch of an entry that is about one. -/
def LedgerEntry.stretch? : LedgerEntry → Option Stretch
  | ⟨.simulate limit, answer, _, controller⟩ => some ⟨limit, answer, controller⟩
  | _ => none

/-- The stretches of a ledger. -/
def stretches (ledger : List LedgerEntry) : List Stretch := ledger.filterMap LedgerEntry.stretch?

/-- The stretches of one phase. -/
structure Phase.IsBlock (phase : Phase) (block : List Stretch) : Prop where
  nonempty : block ≠ []
  limit : ∀ stretch ∈ block, stretch.limit = phase.ticks
  fidelity : ∀ stretch ∈ block, stretch.controller.IsOn phase.fidelity
  checkpoints : ∀ stretch ∈ block.dropLast,
    ∃ event, stretch.answer = .ok event ∧ event.isCheckpointRequest

/-- Blocks for the first of some phases, each but the last ending because its budget ran out. -/
inductive Blocks : List Phase → List (List Stretch) → Prop
  | none (phases : List Phase) : Blocks phases []
  | last {phase : Phase} {phases : List Phase} {block : List Stretch}
      (isBlock : phase.IsBlock block) : Blocks (phase :: phases) [block]
  | next {phase : Phase} {phases : List Phase} {block : List Stretch} {blocks : List (List Stretch)}
      {stretch : Stretch} {event : ExitEvent} (isBlock : phase.IsBlock block)
      (ending : block.getLast? = some stretch) (answer : stretch.answer = .ok event)
      (limitReached : event.isLimitReached) (later : Blocks phases blocks) :
      Blocks (phase :: phases) (block :: blocks)

/-- The last call of a ledger is the last stretch of the last block.  It ended
with an event, and it was a stretch of the last phase unless that event is
another than the end of a budget. -/
structure Concludes (phases : List Phase) (blocks : List (List Stretch))
    (ledger : List LedgerEntry) (exit : ExitEvent) (stretch : Stretch) : Prop where
  entry : ∃ front entry, ledger = front ++ [entry] ∧ entry.stretch? = some stretch
  block : ∃ block, blocks.getLast? = some block ∧ block.getLast? = some stretch
  answer : stretch.answer = .ok exit
  finished : blocks.length = phases.length ∨ exit.isLimitReached = false

theorem stretches_append (first second : List LedgerEntry) :
    stretches (first ++ second) = stretches first ++ stretches second :=
  List.filterMap_append

theorem stretches_eq_nil {ledger : List LedgerEntry}
    (other : ∀ entry ∈ ledger, ∀ limit, entry.call ≠ .simulate limit) : stretches ledger = [] := by
  rw [stretches, List.filterMap_eq_nil_iff]
  intro entry member
  obtain ⟨call, answer, tick, controller⟩ := entry
  cases call with
  | simulate limit => exact absurd rfl (other _ member limit)
  | instantiate | checkpoint | switchCores | dumpStatistics | resetStatistics => rfl

theorem Phase.isBlock_singleton {phase : Phase} {stretch : Stretch}
    (limit : stretch.limit = phase.ticks) (fidelity : stretch.controller.IsOn phase.fidelity) :
    phase.IsBlock [stretch] where
  nonempty := List.cons_ne_nil _ _
  limit := by simpa using limit
  fidelity := by simpa using fidelity
  checkpoints := by simp

/-- A stretch that asks for a checkpoint comes before the rest of its block. -/
theorem Phase.IsBlock.cons {phase : Phase} {stretch : Stretch} {block : List Stretch}
    {event : ExitEvent} (isBlock : phase.IsBlock block) (limit : stretch.limit = phase.ticks)
    (fidelity : stretch.controller.IsOn phase.fidelity) (answer : stretch.answer = .ok event)
    (request : event.isCheckpointRequest) : phase.IsBlock (stretch :: block) where
  nonempty := List.cons_ne_nil _ _
  limit := List.forall_mem_cons.mpr ⟨limit, isBlock.limit⟩
  fidelity := List.forall_mem_cons.mpr ⟨fidelity, isBlock.fidelity⟩
  checkpoints := by
    rw [List.dropLast_cons_of_ne_nil isBlock.nonempty]
    exact List.forall_mem_cons.mpr ⟨⟨event, answer, request⟩, isBlock.checkpoints⟩

theorem Concludes.cons {phase : Phase} {phases : List Phase} {block : List Stretch}
    {blocks : List (List Stretch)} {ledger : List LedgerEntry} {exit : ExitEvent}
    {stretch : Stretch} (concludes : Concludes phases blocks ledger exit stretch)
    (front : List LedgerEntry) :
    Concludes (phase :: phases) (block :: blocks) (front ++ ledger) exit stretch where
  entry := by
    obtain ⟨middle, entry, rfl, found⟩ := concludes.entry
    exact ⟨front ++ middle, entry, by simp, found⟩
  block := by
    obtain ⟨final, last, found⟩ := concludes.block
    exact ⟨final, by rw [List.getLast?_cons, last, Option.getD_some], found⟩
  answer := concludes.answer
  finished := concludes.finished.imp (congrArg (· + 1)) id

namespace Action

open Bench

variable {σ : Type} {engine : Engine σ} {before after : Bench σ}

/-- What is done between two stretches adds none. -/
theorem Stepwise.exists_rest {α : Type} {action : Action σ α} {result : Except Halt α}
    (stepwise : Stepwise engine (fun call => ∀ limit, call ≠ .simulate limit) action)
    (ended : Ends action before result after) :
    ∃ rest, after.ledger = before.ledger ++ rest ∧ stretches rest = [] := by
  obtain ⟨rest, ledgerEq, made⟩ := (stepwise ended).1.exists_rest
  exact ⟨rest, ledgerEq, stretches_eq_nil made⟩

theorem exists_rest_of_enter {fidelity : CoreModel} {result : Except Halt Unit}
    (ended : Ends (enter engine fidelity) before result after) :
    ∃ rest, after.ledger = before.ledger ++ rest ∧ stretches rest = [] :=
  Stepwise.exists_rest (stepwise_enter fidelity (by simp)) ended

/-- What is left of a phase once it has been asked for a checkpoint: no stretch
while the checkpoint is written and the phase entered again, and then the phase. -/
theorem exists_rest_of_resume {options : RunOptions} {phase : Phase}
    {again : Action σ (List String × ExitEvent)} {result : Except Halt (List String × ExitEvent)}
    (ended : Ends (do
      let directory ← checkpoint engine options
      enter engine phase.fidelity
      let (directories, last) ← again
      return (directory :: directories, last)) before result after) :
    ∃ between, stretches between = [] ∧
      ((∃ halt, result = .error halt ∧ after.ledger = before.ledger ++ between) ∨
        ∃ middle ending, middle.controller.IsOn phase.fidelity ∧
          middle.ledger = before.ledger ++ between ∧ Ends again middle ending after ∧
          ∀ value, result = .ok value → ∃ earlier, ending = .ok (earlier, value.2)) := by
  have writing : Stepwise engine (fun call => ∀ limit, call ≠ .simulate limit)
      (checkpoint engine options) :=
    stepwise_checkpoint options (by simp) (by simp)
  obtain ⟨halt, rfl, failed⟩ | ⟨directory, written, checked, onward⟩ := ends_bind_iff.mp ended
  · obtain ⟨between, ledgerEq, silent⟩ := writing.exists_rest failed
    exact ⟨between, silent, .inl ⟨halt, rfl, ledgerEq⟩⟩
  obtain ⟨first, firstEq, firstSilent⟩ := writing.exists_rest checked
  obtain ⟨halt, rfl, failed⟩ | ⟨_, middle, entered, onward⟩ := ends_bind_iff.mp onward
  · obtain ⟨second, secondEq, secondSilent⟩ := exists_rest_of_enter failed
    refine ⟨first ++ second, by simp [stretches_append, firstSilent, secondSilent], .inl ?_⟩
    exact ⟨halt, rfl, by rw [secondEq, firstEq, List.append_assoc]⟩
  obtain ⟨second, secondEq, secondSilent⟩ := exists_rest_of_enter entered
  refine ⟨first ++ second, by simp [stretches_append, firstSilent, secondSilent], .inr ?_⟩
  have ledgerEq : middle.ledger = before.ledger ++ (first ++ second) := by
    rw [secondEq, firstEq, List.append_assoc]
  obtain ⟨halt, rfl, failed⟩ | ⟨ending, last, resumed, done⟩ := ends_bind_iff.mp onward
  · exact ⟨middle, .error halt, isOn_of_enter entered, ledgerEq, failed, by simp⟩
  · obtain ⟨rfl, rfl⟩ := ends_pure_iff.mp done
    refine ⟨middle, .ok ending, isOn_of_enter entered, ledgerEq, resumed, ?_⟩
    intro value same
    obtain rfl := Except.ok.inj same
    exact ⟨ending.1, rfl⟩

/-- The stretches of a phase that is entered are a block of it, unless there is
no patience for any.  If the phase ends, it ends with the last of them. -/
theorem isBlock_of_simulatePhase {options : RunOptions} {phase : Phase} {patience : Nat}
    {result : Except Halt (List String × ExitEvent)}
    (entered : before.controller.IsOn phase.fidelity)
    (ended : Ends (simulatePhase engine options phase patience) before result after) :
    ∃ rest, after.ledger = before.ledger ++ rest ∧
      (stretches rest = [] ∨ phase.IsBlock (stretches rest)) ∧
      ∀ value, result = .ok value → ∃ front entry stretch, rest = front ++ [entry] ∧
        entry.stretch? = some stretch ∧ stretch.answer = .ok value.2 := by
  -- One stretch is simulated with every slot on the fidelity of the phase, and
  -- the walk after a checkpoint leads back there before the next.
  induction patience generalizing before result with
  | zero =>
      obtain ⟨rfl, rfl⟩ := ends_throw_iff.mp ended
      exact ⟨[], by simp, .inl rfl, by simp⟩
  | succ patience ih =>
      let first := before.entry engine (.simulate phase.ticks)
      let stretch : Stretch := ⟨phase.ticks, first.answer, before.controller⟩
      have alone : phase.IsBlock [stretch] := Phase.isBlock_singleton rfl entered
      rw [simulatePhase] at ended
      obtain ⟨halt, rfl, failed⟩ | ⟨event, middle, called, continued⟩ := ends_bind_iff.mp ended
      · obtain ⟨-, rfl⟩ := ends_call_iff.mp failed
        exact ⟨[first], rfl, .inr alone, by simp⟩
      obtain ⟨answered, rfl⟩ := ends_call_ok_iff.mp called
      have answer : stretch.answer = .ok event := answered
      split at continued
      · obtain ⟨rfl, rfl⟩ := ends_pure_iff.mp continued
        refine ⟨[first], rfl, .inr alone, ?_⟩
        intro value same
        obtain rfl := Except.ok.inj same
        exact ⟨[], first, stretch, rfl, rfl, answer⟩
      next request =>
        obtain ⟨between, silent, resumed⟩ := exists_rest_of_resume continued
        have opening : stretches (first :: between) = [stretch] := congrArg (stretch :: ·) silent
        obtain ⟨halt, rfl, ledgerEq⟩ | ⟨middle, ending, onward, ledgerEq, again, valueEq⟩ := resumed
        · refine ⟨first :: between, by simp [ledgerEq, first], ?_, by simp⟩
          rw [opening]
          exact .inr alone
        obtain ⟨later, laterEq, block, ends⟩ := ih onward again
        refine ⟨first :: between ++ later, by simp [laterEq, ledgerEq, first], .inr ?_, ?_⟩
        · rw [stretches_append, opening]
          rcases block with none | isBlock
          · rw [none]
            exact alone
          · exact isBlock.cons rfl entered answer (by simpa using request)
        · intro value same
          obtain ⟨earlier, rfl⟩ := valueEq value same
          obtain ⟨front, entry, last, rfl, lastEq, lastAnswer⟩ := ends _ rfl
          exact ⟨first :: between ++ front, entry, last, by simp, lastEq, lastAnswer⟩

theorem getLast?_stretches (front : List LedgerEntry) {entry : LedgerEntry} {stretch : Stretch}
    (found : entry.stretch? = some stretch) :
    (stretches (front ++ [entry])).getLast? = some stretch := by
  have single : stretches [entry] = [stretch] := by
    rw [stretches, List.filterMap_cons_some found, List.filterMap_nil]
  rw [stretches_append, single, List.getLast?_concat]

theorem exists_rest_of_phase {options : RunOptions} {phase : Phase} {patience : Nat}
    {middle : Bench σ} {result : Except Halt (List String × ExitEvent)}
    (entered : Ends (enter engine phase.fidelity) before (.ok ()) middle)
    (simulated : Ends (simulatePhase engine options phase patience) middle result after) :
    ∃ rest, after.ledger = before.ledger ++ rest ∧
      (stretches rest = [] ∨ phase.IsBlock (stretches rest)) ∧
      ∀ value, result = .ok value → ∃ front entry stretch, rest = front ++ [entry] ∧
        entry.stretch? = some stretch ∧ stretch.answer = .ok value.2 := by
  obtain ⟨first, firstEq, silent⟩ := exists_rest_of_enter entered
  obtain ⟨rest, ledgerEq, block, ends⟩ := isBlock_of_simulatePhase (isOn_of_enter entered) simulated
  have same : stretches (first ++ rest) = stretches rest := by
    rw [stretches_append, silent, List.nil_append]
  refine ⟨first ++ rest, by rw [ledgerEq, firstEq, List.append_assoc], same ▸ block, ?_⟩
  intro value ok
  obtain ⟨front, entry, stretch, rfl, found, answer⟩ := ends value ok
  exact ⟨first ++ front, entry, stretch, by simp, found, answer⟩

/-- Phases that are gone through leave blocks, each entered before it is simulated. -/
theorem blocks_of_runPhases {options : RunOptions} {patience : Nat} {phases : List Phase}
    {earlier : ExitEvent} {result : Except Halt (List String × ExitEvent)}
    (ended : Ends (runPhases engine options patience phases earlier) before result after) :
    ∃ rest blocks, after.ledger = before.ledger ++ rest ∧ stretches rest = blocks.flatten ∧
      Blocks phases blocks ∧
      ∀ value, result = .ok value → (phases = [] ∧ rest = [] ∧ blocks = [] ∧ value.2 = earlier) ∨
        ∃ stretch, Concludes phases blocks rest value.2 stretch := by
  induction phases generalizing before earlier result with
  | nil =>
      obtain ⟨rfl, rfl⟩ := ends_pure_iff.mp ended
      refine ⟨[], [], by simp, rfl, .none _, ?_⟩
      intro value same
      obtain rfl := Except.ok.inj same
      exact .inl ⟨rfl, rfl, rfl, rfl⟩
  | cons phase phases ih =>
      rw [runPhases] at ended
      obtain ⟨halt, rfl, failed⟩ | ⟨_, middle, entered, onward⟩ := ends_bind_iff.mp ended
      · obtain ⟨rest, ledgerEq, silent⟩ := exists_rest_of_enter failed
        exact ⟨rest, [], ledgerEq, silent, .none _, by simp⟩
      obtain ⟨halt, rfl, failed⟩ | ⟨ending, last, simulated, onward⟩ := ends_bind_iff.mp onward
      · obtain ⟨rest, ledgerEq, block, -⟩ := exists_rest_of_phase entered failed
        rcases block with none | isBlock
        · exact ⟨rest, [], ledgerEq, none, .none _, by simp⟩
        · exact ⟨rest, [stretches rest], ledgerEq, by simp, .last isBlock, by simp⟩
      obtain ⟨rest, ledgerEq, block, ends⟩ := exists_rest_of_phase entered simulated
      obtain ⟨front, entry, stretch, rfl, found, answer⟩ := ends ending rfl
      have lastStretch := getLast?_stretches front found
      have isBlock : phase.IsBlock (stretches (front ++ [entry])) := by
        rcases block with none | isBlock
        · simp [none] at lastStretch
        · exact isBlock
      dsimp only at onward
      split at onward
      next limit =>
        obtain ⟨halt, rfl, failed⟩ | ⟨final, stop, resumed, done⟩ := ends_bind_iff.mp onward
        · obtain ⟨later, blocks, laterEq, flat, follows, -⟩ := ih failed
          exact ⟨front ++ [entry] ++ later, stretches (front ++ [entry]) :: blocks,
            by rw [laterEq, ledgerEq, List.append_assoc],
            by rw [stretches_append, flat, List.flatten_cons],
            .next isBlock lastStretch answer limit follows, by simp⟩
        obtain ⟨rfl, rfl⟩ := ends_pure_iff.mp done
        obtain ⟨later, blocks, laterEq, flat, follows, ends⟩ := ih resumed
        refine ⟨front ++ [entry] ++ later, stretches (front ++ [entry]) :: blocks,
          by rw [laterEq, ledgerEq, List.append_assoc],
          by rw [stretches_append, flat, List.flatten_cons],
          .next isBlock lastStretch answer limit follows, ?_⟩
        intro value same
        obtain rfl := Except.ok.inj same
        obtain ⟨rfl, rfl, rfl, exit⟩ | ⟨exited, concludes⟩ := ends final rfl
        · refine .inr ⟨stretch, ⟨front, entry, by simp, found⟩, ⟨_, rfl, lastStretch⟩, ?_, .inl rfl⟩
          rw [answer, ← exit]
        · exact .inr ⟨exited, concludes.cons _⟩
      next other =>
        obtain ⟨rfl, rfl⟩ := ends_pure_iff.mp onward
        refine ⟨_, [_], ledgerEq, (List.append_nil _).symm, .last isBlock, ?_⟩
        intro value same
        obtain rfl := Except.ok.inj same
        exact .inr ⟨stretch, ⟨front, entry, rfl, found⟩, ⟨_, rfl, lastStretch⟩, answer,
          .inr (by simpa using other)⟩

/-- What a run does before its phases. -/
def opening (engine : Engine σ) (topology : Topology) (options : RunOptions) (patience : Nat) :
    Action σ (Nat × Option ExitEvent) := do
  let _ ← call engine
    (.instantiate topology (options.boot.commandLine topology) options.restore)
  warmUp engine options patience

/-- What a run does from its phases on, after the quanta of its warm-up, unless the
workload has exited there. -/
def closing (engine : Engine σ) (options : RunOptions) (patience : Nat)
    (opened : Nat × Option ExitEvent) : Action σ Outcome := do
  let (checkpoints, exit) ← afterWarmUp engine options patience opened.2
  let finalInstructions : UInt64 ← call engine .dumpStatistics
  return { exit, checkpoints, warmupQuanta := opened.1, finalInstructions }

/-- Before its phases a run writes no checkpoints and hands no cores over. -/
theorem stepwise_opening (topology : Topology) (options : RunOptions) (patience : Nat) :
    Stepwise engine (fun call => (∀ directory, call ≠ .checkpoint directory) ∧
      ∀ batch, call ≠ .switchCores batch) (opening engine topology options patience) :=
  .bind (stepwise_call (by simp) (by simp)) fun _ =>
    stepwise_warmUp (by simp) (by simp) (by simp) options patience

theorem stepwise_closing {calls : Call → Prop} (every : ∀ call, calls call) (options : RunOptions)
    (patience : Nat) (opened : Nat × Option ExitEvent) :
    Stepwise engine calls (closing engine options patience opened) :=
  .bind (stepwise_afterWarmUp every options patience _) fun _ =>
    .bind (stepwise_call (every _) (by simp)) fun _ => .pure _

/-- A run fails in its opening, or goes on from there. -/
theorem ends_run {topology : Topology} {options : RunOptions} {patience : Nat}
    {result : Except Halt Outcome}
    (ended : Ends (run engine topology options patience) before result after) :
    (∃ halt, result = .error halt ∧
        Ends (opening engine topology options patience) before (.error halt) after) ∨
      ∃ opened warmed, Ends (opening engine topology options patience) before (.ok opened) warmed ∧
        Ends (closing engine options patience opened) warmed result after := by
  obtain ⟨halt, rfl, failed⟩ | ⟨_, middle, built, onward⟩ := ends_bind_iff.mp ended
  · exact .inl ⟨halt, rfl, ends_bind_iff.mpr (.inl ⟨halt, rfl, failed⟩)⟩
  obtain ⟨halt, rfl, failed⟩ | ⟨opened, warmed, warm, onward⟩ := ends_bind_iff.mp onward
  · exact .inl ⟨halt, rfl, ends_bind_iff.mpr (.inr ⟨_, middle, built, failed⟩)⟩
  · exact .inr ⟨opened, warmed, ends_bind_iff.mpr (.inr ⟨_, middle, built, warm⟩), onward⟩

theorem schedule_eq (options : RunOptions) (sequence : FidelitySequence) :
    schedule options sequence =
      if options.phases = [] then [⟨sequence.first, none⟩] else options.phases := by
  simp [schedule]

theorem schedule_ne_nil (options : RunOptions) (sequence : FidelitySequence) :
    schedule options sequence ≠ [] := by
  rw [schedule_eq]
  split
  · exact List.cons_ne_nil _ _
  next named => exact named

/-- A run whose workload has exited in its warm-up simulates no more. -/
theorem stretches_of_exited {options : RunOptions} {patience quanta : Nat} {event : ExitEvent}
    {result : Except Halt Outcome}
    (ended : Ends (closing engine options patience (quanta, some event)) before result after) :
    ∃ rest, after.ledger = before.ledger ++ rest ∧ stretches rest = [] := by
  have silent : Stepwise engine (fun call => ∀ limit, call ≠ .simulate limit)
      (closing engine options patience (quanta, some event)) :=
    .bind (.pure _) fun _ => .bind (stepwise_call (by simp) (by simp)) fun _ => .pure _
  exact silent.exists_rest ended

/-- A run whose workload goes on after its warm-up simulates its phases. -/
theorem blocks_of_closing {options : RunOptions} {patience quanta : Nat}
    {result : Except Halt Outcome}
    (ended : Ends (closing engine options patience (quanta, none)) before result after) :
    ∃ rest blocks, after.ledger = before.ledger ++ rest ∧ stretches rest = blocks.flatten ∧
      Blocks (schedule options before.controller.sequence) blocks ∧
      ∀ outcome, result = .ok outcome → ∃ main final stretch, rest = main ++ [final] ∧
        final.call = .dumpStatistics ∧
        Concludes (schedule options before.controller.sequence) blocks main outcome.exit
          stretch := by
  obtain ⟨halt, rfl, failed⟩ | ⟨ending, last, phased, onward⟩ := ends_bind_iff.mp ended
  · obtain ⟨rest, blocks, ledgerEq, flat, follows, -⟩ :=
      blocks_of_runPhases (ends_get_bind_iff.mp failed)
    exact ⟨rest, blocks, ledgerEq, flat, follows, by simp⟩
  obtain ⟨rest, blocks, ledgerEq, flat, follows, ends⟩ :=
    blocks_of_runPhases (ends_get_bind_iff.mp phased)
  let final := last.entry engine .dumpStatistics
  have grown : (last.record engine .dumpStatistics).ledger =
      before.ledger ++ (rest ++ [final]) := by
    rw [ledger_record, ledgerEq, List.append_assoc]
  have same : stretches (rest ++ [final]) = blocks.flatten := by
    rw [stretches_append, flat]
    exact List.append_nil _
  obtain ⟨halt, rfl, failed⟩ | ⟨count, stop, counted, done⟩ := ends_bind_iff.mp onward
  · obtain ⟨-, rfl⟩ := ends_call_iff.mp failed
    exact ⟨rest ++ [final], blocks, grown, same, follows, by simp⟩
  obtain ⟨-, rfl⟩ := ends_call_ok_iff.mp counted
  obtain ⟨rfl, rfl⟩ := ends_pure_iff.mp done
  refine ⟨rest ++ [final], blocks, grown, same, follows, ?_⟩
  intro outcome ok
  obtain rfl := Except.ok.inj ok
  obtain ⟨none, -⟩ | ⟨stretch, concludes⟩ := ends ending rfl
  · exact absurd none (schedule_ne_nil _ _)
  · exact ⟨rest, final, stretch, rfl, rfl, concludes⟩

/-- After its warm-up a run simulates blocks for its phases, in order, or for one
phase on the first fidelity if it has none.  A run that ends well ends with the
last stretch of the last block, and then only asks for the statistics. -/
theorem run_follows_schedule {topology : Topology} {options : RunOptions} {patience : Nat}
    {result : Except Halt Outcome}
    (ended : Ends (run engine topology options patience) before result after) :
    ∃ opened warmed rest phases blocks,
      Ends (opening engine topology options patience) before opened warmed ∧
      after.ledger = warmed.ledger ++ rest ∧
      phases = (if options.phases = [] then [⟨before.controller.sequence.first, none⟩]
        else options.phases) ∧
      stretches rest = blocks.flatten ∧ Blocks phases blocks ∧
      ((∀ quanta, opened ≠ .ok (quanta, none)) → blocks = []) ∧
      ∀ outcome quanta, result = .ok outcome → opened = .ok (quanta, none) →
        ∃ main final stretch, rest = main ++ [final] ∧ final.call = .dumpStatistics ∧
          Concludes phases blocks main outcome.exit stretch := by
  obtain ⟨halt, rfl, failed⟩ | ⟨⟨quanta, exited⟩, warmed, warm, onward⟩ := ends_run ended
  · exact ⟨.error halt, after, [], _, [], failed, by simp, rfl, rfl, .none _, fun _ => rfl, by simp⟩
  cases exited with
  | some event =>
      obtain ⟨rest, ledgerEq, silent⟩ := stretches_of_exited onward
      refine ⟨_, warmed, rest, _, [], warm, ledgerEq, rfl, silent, .none _, fun _ => rfl, ?_⟩
      intro outcome other _ impossible
      cases impossible
  | none =>
      obtain ⟨rest, blocks, ledgerEq, flat, follows, ends⟩ := blocks_of_closing onward
      have sequenceEq := (stepwise_opening topology options patience warm).1.sequence_eq
      rw [sequenceEq] at follows ends
      refine ⟨_, warmed, rest, _, blocks, warm, ledgerEq, schedule_eq .., flat, follows, ?_, ?_⟩
      · intro other
        exact absurd rfl (other quanta)
      · intro outcome _ ok _
        exact ends outcome ok

/-- An engine that asks for a checkpoint, and a controller of two cores. -/
def benchOfDual : Bench ScriptedState where
  engine := .ofScript { events := [.checkpointRequest] }
  controller := .dual

/-- A phase with a budget, and one without. -/
def twoPhases : RunOptions where
  phases := [⟨.timing, some 10⟩, ⟨.atomic, none⟩]

theorem run_follows_schedule_dual :
    ∃ outcome after rest blocks,
      Ends (run (Script.engine {}) .dual twoPhases 2) benchOfDual (.ok outcome) after ∧
        rest <:+ after.ledger ∧ stretches rest = blocks.flatten ∧
        Blocks twoPhases.phases blocks ∧ blocks ≠ [] := by
  have runs : yields (run (Script.engine {}) .dual twoPhases 2) benchOfDual fun _ => true := by
    decide +kernel
  have warms : yields (opening (Script.engine {}) .dual twoPhases 2) benchOfDual
      fun opened => opened.2.isNone := by
    decide +kernel
  obtain ⟨outcome, after, ending, -⟩ := exists_ends_of_yields runs
  obtain ⟨opened, warmed, rest, phases, blocks, opens, ledgerEq, rfl, flat, follows, -, ends⟩ :=
    run_follows_schedule ending
  refine ⟨outcome, after, rest, blocks, ending, ⟨_, ledgerEq.symm⟩, flat, follows, ?_⟩
  obtain ⟨⟨quanta, exited⟩, _, warm, goesOn⟩ := exists_ends_of_yields warms
  obtain rfl := Option.isNone_iff_eq_none.mp goesOn
  obtain ⟨main, final, stretch, -, -, concludes⟩ := ends outcome quanta rfl (opens.unique warm).1
  obtain ⟨block, found, -⟩ := concludes.block
  rintro rfl
  cases found

end Action

end Mainboard
