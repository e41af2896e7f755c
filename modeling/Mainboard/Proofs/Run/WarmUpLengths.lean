import Mainboard.Proofs.Run.WarmUps
import Mathlib.Data.Nat.Find
import Mathlib.Order.Bounds.Defs

/-!
# How long a warm-up takes

The loop of a warm-up has no bound of its own.  On an engine that answers its
calls it is over with the first quantum in which the workload exits or by which
the threshold is reached; the exit counts first.  If no quantum is like that the
warm-up goes on until nobody waits any longer.  An engine that commits at least
one instruction in every quantum without an exit needs no more quanta than the
threshold has instructions, and one if it has none.
-/

namespace Mainboard

namespace Quantum

/-- A warm-up up to a threshold is over with a quantum. -/
def Stops (threshold : UInt64) (quantum : Quantum) : Prop :=
  quantum.event.isWorkloadExit ∨ threshold ≤ quantum.committed

/-- The instructions that are committed before each of some quanta, counted from none. -/
def committedBefore (quanta : Nat → Quantum) : Nat → Nat
  | 0 => 0
  | number + 1 => (quanta number).committed.toNat

end Quantum

namespace Engine

variable {σ : Type} (engine : Engine σ) (ticks : UInt64)

/-- The state an engine is left in by a quantum and the dump after it. -/
def afterQuantum (state : σ) : σ :=
  (engine.answer .dumpStatistics (engine.answer (.simulate (some ticks)) state).2).2

/-- The state of an engine before each quantum of a warm-up. -/
def beforeQuantum (start : σ) : Nat → σ
  | 0 => start
  | number + 1 => beforeQuantum (engine.afterQuantum ticks start) number

/-- No call of a warm-up fails: the engine answers with the quanta up to the first that stops the
warm-up, and sets the statistics back if that one is not an exit. -/
structure Sustains (threshold : UInt64) (start : σ) (quanta : Nat → Quantum) : Prop where
  simulates : ∀ number, (∀ earlier < number, ¬ (quanta earlier).Stops threshold) →
    engine.Simulates ticks (engine.beforeQuantum ticks start number) (quanta number)
  resets : ∀ number, (∀ earlier < number, ¬ (quanta earlier).Stops threshold) →
    (quanta number).event.isWorkloadExit = false → threshold ≤ (quanta number).committed →
    (engine.answer .resetStatistics (engine.beforeQuantum ticks start (number + 1))).1 = .ok ()

variable {engine ticks} {threshold : UInt64} {start : σ} {quanta : Nat → Quantum}

/-- What is left of a warm-up after its first quantum. -/
theorem Sustains.next (sustains : engine.Sustains ticks threshold start quanta)
    (goesOn : ¬ (quanta 0).Stops threshold) :
    engine.Sustains ticks threshold (engine.afterQuantum ticks start)
      (fun number => quanta (number + 1)) where
  simulates number unstopped :=
    sustains.simulates (number + 1) (Nat.forall_lt_succ_left.mpr ⟨goesOn, unstopped⟩)
  resets number unstopped :=
    sustains.resets (number + 1) (Nat.forall_lt_succ_left.mpr ⟨goesOn, unstopped⟩)

end Engine

/-- Every quantum that a warm-up makes commits an instruction at least, unless the workload exits
in it. -/
def Progresses (threshold : UInt64) (quanta : Nat → Quantum) : Prop :=
  ∀ number, (∀ earlier < number, ¬ (quanta earlier).Stops threshold) →
    (quanta number).event.isWorkloadExit = false →
    Quantum.committedBefore quanta number < (quanta number).committed.toNat

section Progress

variable {threshold : UInt64} {quanta : Nat → Quantum}

/-- As long as nothing stops a warm-up, it has committed more instructions than it had quanta
before. -/
theorem Progresses.lt_committed (progresses : Progresses threshold quanta) {number : Nat}
    (unstopped : ∀ earlier ≤ number, ¬ (quanta earlier).Stops threshold) :
    number < (quanta number).committed.toNat := by
  have goesOn : ∀ earlier ≤ number, (quanta earlier).event.isWorkloadExit = false :=
    fun earlier within => Bool.eq_false_iff.mpr fun exits => unstopped earlier within (.inl exits)
  induction number with
  | zero => exact progresses 0 (by simp) (goesOn 0 le_rfl)
  | succ number ih =>
      have before := ih (fun earlier within => unstopped earlier (by omega))
        fun earlier within => goesOn earlier (by omega)
      have more := progresses (number + 1) (fun earlier within => unstopped earlier (by omega))
        (goesOn _ le_rfl)
      rw [Quantum.committedBefore] at more
      omega

/-- A warm-up that progresses is over after as many quanta as its threshold has instructions. -/
theorem Progresses.exists_isLeast (progresses : Progresses threshold quanta) :
    ∃ number, IsLeast {stop | (quanta stop).Stops threshold} number ∧
      number + 1 ≤ max 1 threshold.toNat := by
  classical
  have stops : ∃ number, number + 1 ≤ max 1 threshold.toNat ∧ (quanta number).Stops threshold := by
    by_contra endless
    push Not at endless
    let last := max 1 threshold.toNat - 1
    have many : last < (quanta last).committed.toNat :=
      progresses.lt_committed fun earlier within => endless earlier (by omega)
    exact endless last (by omega) (.inr (UInt64.le_iff_toNat_le.mpr (by omega)))
  obtain ⟨bound, within, stopped⟩ := stops
  have exists_stop : ∃ number, (quanta number).Stops threshold := ⟨bound, stopped⟩
  refine ⟨Nat.find exists_stop, ⟨Nat.find_spec exists_stop, fun _ => Nat.find_min' exists_stop⟩, ?_⟩
  have least : Nat.find exists_stop ≤ bound := Nat.find_min' exists_stop stopped
  omega

end Progress

namespace Action

open Bench

variable {σ : Type} {engine : Engine σ} {before : Bench σ} {ticks threshold : UInt64}
  {quanta : Nat → Quantum}

/-- Once it has gone on up to some quantum, a warm-up is over with the first that stops it. -/
theorem exists_ends_warmUpFrom {number patience : Nat}
    (sustains : engine.Sustains ticks threshold before.engine quanta)
    (stops : (quanta number).Stops threshold)
    (unstopped : ∀ earlier < number, ¬ (quanta earlier).Stops threshold)
    (patient : number < patience) (done : Nat) :
    ∃ resets after,
      Ends (warmUpFrom engine threshold ticks patience done) before
        (.ok (done + (number + 1),
          if (quanta number).event.isWorkloadExit then some (quanta number).event else none))
        after ∧
      after.ledger = before.ledger ++ (((List.range (number + 1)).map quanta).flatMap
        (Quantum.entries ticks before.controller) ++ resets) ∧
      resets.map (·.call) =
        if (quanta number).event.isWorkloadExit then [] else [.resetStatistics] := by
  obtain ⟨patience, rfl⟩ := Nat.exists_eq_add_of_lt patient
  clear patient
  -- The first quantum is taken off: the engine goes on from the state it leaves, with the quanta
  -- after it.
  induction number generalizing before quanta done with
  | zero =>
      have simulates := sustains.simulates 0 unstopped
      simp only [Nat.zero_add, ends_warmUpFrom_succ_iff simulates]
      cases exits : (quanta 0).event.isWorkloadExit with
      | true =>
          refine ⟨[], quantumDone before engine ticks, ?_, ?_, rfl⟩
          · exact ends_pure_iff.mpr ⟨rfl, rfl⟩
          · simpa using ledger_quantumDone simulates
      | false =>
          have enough : threshold ≤ (quanta 0).committed := stops.resolve_left (by simp [exits])
          let warmed := quantumDone before engine ticks
          have resets : (engine.answer .resetStatistics warmed.engine).1 = .ok () :=
            sustains.resets 0 unstopped exits enough
          refine ⟨[warmed.entry engine .resetStatistics], warmed.record engine .resetStatistics, ?_,
            ?_, rfl⟩
          · rw [if_neg Bool.false_ne_true, if_pos enough]
            exact (ends_call_bind_iff resets).mpr (ends_pure_iff.mpr ⟨rfl, rfl⟩)
          · rw [ledger_record, ledger_quantumDone simulates, List.append_assoc]
            simp
  | succ number ih =>
      obtain ⟨goesOn, unstopped⟩ := Nat.forall_lt_succ_left.mp unstopped
      have simulates := sustains.simulates 0 (by simp)
      have stays : (quanta 0).event.isWorkloadExit = false :=
        Bool.eq_false_iff.mpr fun exits => goesOn (.inl exits)
      have sustains : engine.Sustains ticks threshold (quantumDone before engine ticks).engine
          fun number => quanta (number + 1) := sustains.next goesOn
      obtain ⟨resets, after, ended, ledgerEq, calls⟩ := ih sustains stops unstopped (done + 1)
      refine ⟨resets, after, ?_, ?_, calls⟩
      · rw [Nat.add_right_comm number 1 patience, ends_warmUpFrom_succ_iff simulates, stays,
          if_neg Bool.false_ne_true, if_neg fun enough => goesOn (.inr enough)]
        rw [Nat.add_assoc done, Nat.add_comm 1] at ended
        exact ended
      · rw [ledgerEq, ledger_quantumDone simulates, List.range_succ_eq_map (n := number + 1)]
        simp [quantumDone, Function.comp_def]

/-- A warm-up that nothing stops outlasts every patience. -/
theorem exists_ends_warmUpFrom_of_unstopped {patience : Nat}
    (sustains : engine.Sustains ticks threshold before.engine quanta)
    (unstopped : ∀ number < patience, ¬ (quanta number).Stops threshold) (done : Nat) :
    ∃ after, Ends (warmUpFrom engine threshold ticks patience done) before
      (.error .outOfPatience) after := by
  induction patience generalizing before quanta done with
  | zero => exact ⟨before, ends_throw_iff.mpr ⟨rfl, rfl⟩⟩
  | succ patience ih =>
      obtain ⟨goesOn, unstopped⟩ := Nat.forall_lt_succ_left.mp unstopped
      have simulates := sustains.simulates 0 (by simp)
      have sustains : engine.Sustains ticks threshold (quantumDone before engine ticks).engine
          fun number => quanta (number + 1) := sustains.next goesOn
      obtain ⟨after, ended⟩ := ih sustains unstopped (done + 1)
      refine ⟨after, (ends_warmUpFrom_succ_iff simulates).mpr ?_⟩
      rw [if_neg fun exits => goesOn (.inl exits), if_neg fun enough => goesOn (.inr enough)]
      exact ended

/-- On an engine that answers its calls a warm-up is over with the first quantum that stops it,
however much longer one would wait.  It reports the event of that quantum if the workload has
exited, also when the threshold is reached in the same quantum, and otherwise sets the statistics
back once.  If no quantum stops it, every patience is too short.  But if every quantum without an
exit commits an instruction at least, one of the first quanta does: of as many as the threshold has
instructions, and of one if it has none. -/
theorem warmUp_lasts_until_stopped {options : RunOptions}
    (asked : options.warmupThreshold = some threshold)
    (sustains : engine.Sustains options.warmupQuantum threshold before.engine quanta) :
    (∀ number, IsLeast {stop | (quanta stop).Stops threshold} number →
      ∀ patience, number < patience → ∃ resets after,
        Ends (warmUp engine options patience) before
          (.ok (number + 1,
            if (quanta number).event.isWorkloadExit then some (quanta number).event else none))
          after ∧
        after.ledger = before.ledger ++ (((List.range (number + 1)).map quanta).flatMap
          (Quantum.entries options.warmupQuantum before.controller) ++ resets) ∧
        resets.map (·.call) =
          if (quanta number).event.isWorkloadExit then [] else [.resetStatistics]) ∧
    (∀ patience, (∀ number < patience, ¬ (quanta number).Stops threshold) →
      ∃ after, Ends (warmUp engine options patience) before (.error .outOfPatience) after) ∧
    (Progresses threshold quanta →
      ∃ number, IsLeast {stop | (quanta stop).Stops threshold} number ∧
        number + 1 ≤ max 1 threshold.toNat) := by
  simp only [warmUp, asked]
  refine ⟨fun number least patience patient => ?_, fun patience unstopped =>
    exists_ends_warmUpFrom_of_unstopped sustains unstopped 0, Progresses.exists_isLeast⟩
  obtain ⟨stops, first⟩ := least
  have unstopped : ∀ earlier < number, ¬ (quanta earlier).Stops threshold :=
    fun earlier before stopped => absurd (first stopped) (by omega)
  have ended := exists_ends_warmUpFrom sustains stops unstopped patient 0
  simpa only [Nat.zero_add] using ended

/-- A script whose workload exits in its second stretch, with one instruction in each. -/
def exitsSecond : Script where
  events := [.checkpointRequest, ⟨"m5_exit instruction encountered", 0⟩]
  instructionsPerStretch := 1

/-- The quanta of ten ticks on that script. -/
def secondExits : Nat → Quantum
  | 0 => ⟨.checkpointRequest, 1, 0, 10⟩
  | _ => ⟨⟨"m5_exit instruction encountered", 0⟩, 2, 10, 20⟩

/-- A warm-up of two instructions, ten ticks at a time. -/
def twoByTens : RunOptions where
  warmupThreshold := some 2
  warmupQuantum := 10

/-- The bench on which that script starts. -/
def benchOfSecond : Bench ScriptedState where
  engine := .ofScript exitsSecond
  controller := .dual

/-- The workload exits in the quantum by which the threshold of two instructions is reached. -/
theorem warmUp_lasts_until_stopped_exitsSecond :
    ∃ after, Ends (warmUp exitsSecond.engine twoByTens 3) benchOfSecond
        (.ok (2, some ⟨"m5_exit instruction encountered", 0⟩)) after ∧
      after.ledger.map (·.call.kind) = [.simulate, .dumpStatistics, .simulate, .dumpStatistics] ∧
      ∃ number, IsLeast {stop | (secondExits stop).Stops 2} number ∧ number + 1 ≤ 2 := by
  have goesOn : ¬ (secondExits 0).Stops 2 := by
    rintro (exits | enough)
    · cases exits
    · exact absurd enough (by decide)
  have stops : ∀ number, (secondExits (number + 1)).Stops 2 := fun number => .inl rfl
  have least : IsLeast {stop | (secondExits stop).Stops 2} 1 := by
    refine ⟨stops 0, fun number stopped => ?_⟩
    cases number with
    | zero => exact absurd stopped goesOn
    | succ number => omega
  have sustains : exitsSecond.engine.Sustains twoByTens.warmupQuantum 2
      benchOfSecond.engine secondExits := by
    constructor
    · rintro (_ | _ | number) unstopped
      · exact ⟨rfl, rfl, rfl, rfl⟩
      · exact ⟨rfl, rfl, rfl, rfl⟩
      · exact absurd (stops 0) (unstopped 1 (by omega))
    · rintro (_ | number) unstopped stays enough
      · exact absurd (.inr enough) goesOn
      · cases stays
  have progresses : Progresses 2 secondExits := by
    rintro (_ | number) - stays
    · decide
    · cases stays
  obtain ⟨ends, -, short⟩ := warmUp_lasts_until_stopped rfl sustains
  obtain ⟨resets, after, ended, ledgerEq, calls⟩ := ends 1 least 3 (by omega)
  obtain rfl : resets = [] := List.map_eq_nil_iff.mp calls
  exact ⟨after, ended, by rw [ledgerEq]; rfl, short progresses⟩

end Action

end Mainboard
