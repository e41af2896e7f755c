import Mainboard.Proofs.Run.Schedule

/-!
# Warm-ups

A warm-up simulates quanta of one length, and the statistics are dumped after
each.  It is over with the first quantum in which the workload exits, and
otherwise with the first by which enough instructions are committed: then the
statistics are set back.
-/

namespace Mainboard

/-- Whether the workload has exited: no budget ran out, and no checkpoint is asked for. -/
def ExitEvent.isWorkloadExit (event : ExitEvent) : Bool :=
  !event.isLimitReached && !event.isCheckpointRequest

/-- A quantum of a warm-up: the event that ended it and the instructions committed by then, with the
ticks at which it was started and at which its statistics were dumped. -/
structure Quantum where
  event : ExitEvent
  committed : UInt64
  started : UInt64
  dumped : UInt64

/-- The calls of a quantum of some ticks: it is simulated, and then the statistics are dumped. -/
def Quantum.entries (ticks : UInt64) (controller : Controller) (quantum : Quantum) :
    List LedgerEntry :=
  [⟨.simulate (some ticks), .ok quantum.event, quantum.started, controller⟩,
    ⟨.dumpStatistics, .ok quantum.committed, quantum.dumped, controller⟩]

/-- The stretches of a warm-up are its quanta. -/
theorem Quantum.length_stretches_flatMap_entries (quanta : List Quantum) (ticks : UInt64)
    (controller : Controller) :
    (stretches (quanta.flatMap (entries ticks controller))).length = quanta.length := by
  induction quanta with
  | nil => rfl
  | cons quantum quanta ih =>
      rw [List.flatMap_cons, stretches_append, List.length_append, ih, List.length_cons,
        Nat.add_comm]
      rfl

/-- The quanta of a warm-up up to a threshold, if there is one, and the event if the workload exits
in the last of them. -/
inductive WarmsUp : Option UInt64 → List Quantum → Option ExitEvent → Prop
  | unasked : WarmsUp none [] none
  | exits {threshold : UInt64} {quantum : Quantum} (exits : quantum.event.isWorkloadExit) :
      WarmsUp (some threshold) [quantum] (some quantum.event)
  | reaches {threshold : UInt64} {quantum : Quantum}
      (goesOn : quantum.event.isWorkloadExit = false) (enough : threshold ≤ quantum.committed) :
      WarmsUp (some threshold) [quantum] none
  | next {threshold : UInt64} {quantum : Quantum} {quanta : List Quantum}
      {ending : Option ExitEvent} (goesOn : quantum.event.isWorkloadExit = false)
      (few : ¬ threshold ≤ quantum.committed) (later : WarmsUp (some threshold) quanta ending) :
      WarmsUp (some threshold) (quantum :: quanta) ending

namespace WarmsUp

variable {threshold : Option UInt64} {quanta : List Quantum} {ending : Option ExitEvent}

theorem eq_nil_iff (warmsUp : WarmsUp threshold quanta ending) :
    quanta = [] ↔ threshold = none := by
  cases warmsUp <;> simp

/-- The workload goes on after every quantum but the last. -/
theorem goesOn_of_mem_dropLast (warmsUp : WarmsUp threshold quanta ending) :
    ∀ quantum ∈ quanta.dropLast, quantum.event.isWorkloadExit = false := by
  induction warmsUp with
  | unasked | exits | reaches => simp
  | next goesOn few later ih =>
      rw [List.dropLast_cons_of_ne_nil (later.eq_nil_iff.not.mpr (Option.some_ne_none _))]
      exact List.forall_mem_cons.mpr ⟨goesOn, ih⟩

/-- A workload that exits ends the warm-up with its event. -/
theorem eq_some_of_exits (warmsUp : WarmsUp threshold quanta ending) {quantum : Quantum}
    (member : quantum ∈ quanta) (exits : quantum.event.isWorkloadExit) :
    ending = some quantum.event := by
  induction warmsUp with
  | unasked => cases member
  | exits => rw [List.mem_singleton.mp member]
  | reaches goesOn =>
      rw [List.mem_singleton.mp member, goesOn] at exits
      cases exits
  | next goesOn few later ih =>
      rcases List.mem_cons.mp member with rfl | rest
      · rw [goesOn] at exits
        cases exits
      · exact ih rest

theorem any_isWorkloadExit (warmsUp : WarmsUp threshold quanta ending) :
    quanta.any (·.event.isWorkloadExit) = ending.isSome := by
  induction warmsUp with
  | unasked => rfl
  | exits exits => simpa using exits
  | reaches goesOn => simpa using goesOn
  | next goesOn few later ih => rw [List.any_cons, goesOn, ih, Bool.false_or]

end WarmsUp

namespace Engine

variable {σ : Type}

/-- A quantum is what an engine in a state answers to the calls for one. -/
structure Simulates (engine : Engine σ) (ticks : UInt64) (state : σ) (quantum : Quantum) :
    Prop where
  event : (engine.answer (.simulate (some ticks)) state).1 = .ok quantum.event
  committed : (engine.answer .dumpStatistics (engine.answer (.simulate (some ticks)) state).2).1 =
    .ok quantum.committed
  started : quantum.started = engine.tick state
  dumped : quantum.dumped = engine.tick (engine.answer (.simulate (some ticks)) state).2

end Engine

namespace Action

open Bench

variable {σ : Type} {engine : Engine σ} {before after : Bench σ} {ticks threshold : UInt64}
  {quantum : Quantum}

/-- The bench after a quantum and the dump of its statistics. -/
def quantumDone (bench : Bench σ) (engine : Engine σ) (ticks : UInt64) : Bench σ :=
  (bench.record engine (.simulate (some ticks))).record engine .dumpStatistics

theorem ledger_quantumDone (simulates : engine.Simulates ticks before.engine quantum) :
    (quantumDone before engine ticks).ledger =
      before.ledger ++ quantum.entries ticks before.controller := by
  obtain ⟨event, committed, started, dumped⟩ := quantum
  obtain ⟨answered, counted, rfl, rfl⟩ := simulates
  have second : (engine.answer .dumpStatistics
      (before.record engine (.simulate (some ticks))).engine).1 = .ok committed := counted
  rw [quantumDone, ledger_record, ledger_record, List.append_assoc]
  simp only [Quantum.entries, entry, answered, second]
  rfl

/-- A round of the loop on an engine that answers with a quantum. -/
theorem ends_warmUpFrom_succ_iff {patience done : Nat}
    {result : Except Halt (Nat × Option ExitEvent)}
    (simulates : engine.Simulates ticks before.engine quantum) :
    Ends (warmUpFrom engine threshold ticks (patience + 1) done) before result after ↔
      Ends
        (if quantum.event.isWorkloadExit then pure (done + 1, some quantum.event)
        else if threshold ≤ quantum.committed then do
          let _ ← Action.call engine .resetStatistics
          pure (done + 1, none)
        else warmUpFrom engine threshold ticks patience (done + 1))
        (quantumDone before engine ticks) result after := by
  rw [warmUpFrom]
  exact (ends_call_bind_iff simulates.event).trans (ends_call_bind_iff simulates.committed)

/-- A round that does not fail has simulated a quantum. -/
theorem exists_simulates_of_warmUpFrom {patience done : Nat} {value : Nat × Option ExitEvent}
    (ended : Ends (warmUpFrom engine threshold ticks (patience + 1) done) before (.ok value)
      after) :
    ∃ quantum, engine.Simulates ticks before.engine quantum := by
  rw [warmUpFrom] at ended
  obtain ⟨event, middle, called, onward⟩ := ends_bind_ok_iff.mp ended
  obtain ⟨answered, rfl⟩ := ends_call_ok_iff.mp called
  obtain ⟨committed, counted, dumped, -⟩ := ends_bind_ok_iff.mp onward
  obtain ⟨counts, -⟩ := ends_call_ok_iff.mp dumped
  exact ⟨⟨event, committed, _, _⟩, answered, counts, rfl, rfl⟩

/-- What a warm-up calls: its quanta, and the call to set the statistics back if they are enough. -/
theorem warmsUp_of_warmUpFrom {patience done : Nat} {value : Nat × Option ExitEvent}
    (ended : Ends (warmUpFrom engine threshold ticks patience done) before (.ok value) after) :
    ∃ quanta resets, after.ledger = before.ledger ++
        (quanta.flatMap (Quantum.entries ticks before.controller) ++ resets) ∧
      after.controller = before.controller ∧ value.1 = done + quanta.length ∧
      WarmsUp (some threshold) quanta value.2 ∧
      resets.map (·.call) = if value.2.isNone then [.resetStatistics] else [] := by
  induction patience generalizing before done with
  | zero => cases (ends_throw_iff.mp ended).1
  | succ patience ih =>
      obtain ⟨quantum, simulates⟩ := exists_simulates_of_warmUpFrom ended
      have grown := ledger_quantumDone simulates
      rw [ends_warmUpFrom_succ_iff simulates] at ended
      split at ended
      next exits =>
        obtain ⟨rfl, rfl⟩ := ends_pure_ok_iff.mp ended
        refine ⟨[quantum], [], ?_, rfl, rfl, .exits exits, rfl⟩
        rw [List.flatMap_singleton, List.append_nil]
        exact grown
      next stays =>
        have goesOn : quantum.event.isWorkloadExit = false := Bool.eq_false_iff.mpr stays
        split at ended
        next enough =>
          obtain ⟨_, last, reset, finished⟩ := ends_bind_ok_iff.mp ended
          obtain ⟨-, rfl⟩ := ends_call_ok_iff.mp reset
          obtain ⟨rfl, rfl⟩ := ends_pure_ok_iff.mp finished
          refine ⟨[quantum], [(quantumDone before engine ticks).entry engine .resetStatistics], ?_,
            rfl, rfl, .reaches goesOn enough, rfl⟩
          rw [ledger_record, grown, List.flatMap_singleton, List.append_assoc]
        next few =>
          obtain ⟨quanta, resets, ledgerEq, same, counted, warmsUp, calls⟩ := ih ended
          refine ⟨quantum :: quanta, resets, ?_, same, ?_, .next goesOn few warmsUp, calls⟩
          · rw [ledgerEq, grown, List.flatMap_cons, List.append_assoc, List.append_assoc]
            rfl
          · rw [counted, List.length_cons]
            omega

theorem warmsUp_of_warmUp {options : RunOptions} {patience : Nat} {value : Nat × Option ExitEvent}
    (ended : Ends (warmUp engine options patience) before (.ok value) after) :
    ∃ quanta resets, after.ledger = before.ledger ++
        (quanta.flatMap (Quantum.entries options.warmupQuantum before.controller) ++ resets) ∧
      after.controller = before.controller ∧ value.1 = quanta.length ∧
      WarmsUp options.warmupThreshold quanta value.2 ∧
      resets.map (·.call) =
        if options.warmupThreshold.isSome && value.2.isNone then [.resetStatistics] else [] := by
  rw [warmUp] at ended
  split at ended
  next none =>
    obtain ⟨rfl, rfl⟩ := ends_pure_ok_iff.mp ended
    exact ⟨[], [], by simp, rfl, rfl, none ▸ .unasked, by simp [none]⟩
  next threshold some =>
    obtain ⟨quanta, resets, ledgerEq, same, counted, warmsUp, calls⟩ := warmsUp_of_warmUpFrom ended
    exact ⟨quanta, resets, ledgerEq, same, by omega, some ▸ warmsUp, by simpa [some] using calls⟩

/-- Before its phases a run instantiates the machine and warms it up. -/
theorem warmsUp_of_opening {topology : Topology} {options : RunOptions} {patience : Nat}
    {opened : Nat × Option ExitEvent}
    (ended : Ends (opening engine topology options patience) before (.ok opened) after) :
    ∃ built quanta resets, after.ledger = before.ledger ++ built ::
        (quanta.flatMap (Quantum.entries options.warmupQuantum before.controller) ++ resets) ∧
      built.call = .instantiate topology (options.boot.commandLine topology) options.restore ∧
      opened.1 = quanta.length ∧ WarmsUp options.warmupThreshold quanta opened.2 ∧
      resets.map (·.call) =
        if options.warmupThreshold.isSome && opened.2.isNone then [.resetStatistics] else [] := by
  obtain ⟨_, middle, built, warmed⟩ := ends_bind_ok_iff.mp ended
  obtain ⟨-, rfl⟩ := ends_call_ok_iff.mp built
  obtain ⟨quanta, resets, ledgerEq, -, counted, warmsUp, calls⟩ := warmsUp_of_warmUp warmed
  refine ⟨before.entry engine (.instantiate topology (options.boot.commandLine topology)
    options.restore), quanta, resets, ?_, rfl, counted, warmsUp, calls⟩
  rw [ledgerEq, ledger_record, List.append_assoc]
  rfl

end Action

end Mainboard
