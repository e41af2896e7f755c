import Mathlib.Algebra.Order.BigOperators.Group.List
import Mathlib.Algebra.Order.Group.Nat
import Mathlib.Data.UInt
import Mainboard.Proofs.Run.Requests

/-!
# What a phase spends of its budget

A ledger says at which tick each call was made, and so how many ticks each
stretch took.  If the engine keeps to budgets, no stretch of a phase takes more
than the budget of the phase.  But a phase that is asked for a checkpoint goes
on with its whole budget, so it may take the budget once more for each request.
-/

namespace Mainboard

/-- A stretch takes no more ticks than its budget, if it has one. -/
def Engine.KeepsBudgets {σ : Type} (engine : Engine σ) : Prop :=
  ∀ budget state, (engine.tick (engine.answer (.simulate (some budget)) state).2).toNat ≤
    (engine.tick state).toNat + budget.toNat

/-- Whether a stretch ended with a request for a checkpoint. -/
def Stretch.isRequest (stretch : Stretch) : Bool :=
  match stretch.answer with
  | .ok event => event.isCheckpointRequest
  | .error _ => false

/-- A stretch and the ticks that it took. -/
structure TimedStretch where
  stretch : Stretch
  ticks : Nat

/-- The ticks are within the budget of the stretch. -/
def TimedStretch.IsWithin (timed : TimedStretch) : Prop :=
  ∀ budget, timed.stretch.limit = some budget → timed.ticks ≤ budget.toNat

/-- The tick of the first call of a ledger, or of its end. -/
def startTick (ledger : List LedgerEntry) (finish : UInt64) : UInt64 :=
  (ledger.head?.map (·.tick)).getD finish

/-- The stretches of a ledger that ends at a tick, each timed up to the next call. -/
def timedStretches (finish : UInt64) : List LedgerEntry → List TimedStretch
  | [] => []
  | entry :: ledger =>
      let ticks := (startTick ledger finish).toNat - entry.tick.toNat
      (entry.stretch?.map (⟨·, ticks⟩)).toList ++ timedStretches finish ledger

theorem startTick_append (first second : List LedgerEntry) (finish : UInt64) :
    startTick (first ++ second) finish = startTick first (startTick second finish) := by
  cases first <;> rfl

theorem timedStretches_append (first second : List LedgerEntry) (finish : UInt64) :
    timedStretches finish (first ++ second) =
      timedStretches (startTick second finish) first ++ timedStretches finish second := by
  induction first with
  | nil => rfl
  | cons entry first ih =>
      rw [List.cons_append, timedStretches, ih, timedStretches, startTick_append,
        List.append_assoc]

theorem map_stretch_timedStretches (ledger : List LedgerEntry) (finish : UInt64) :
    (timedStretches finish ledger).map (·.stretch) = stretches ledger := by
  induction ledger with
  | nil => rfl
  | cons entry ledger ih =>
      rw [timedStretches, List.map_append, ih, stretches, stretches]
      cases found : entry.stretch? with
      | none => simp [List.filterMap_cons_none found]
      | some stretch => simp [List.filterMap_cons_some found]

namespace Bench

variable {σ : Type} {engine : Engine σ} {calls : Call → Prop} {before after : Bench σ}

theorem isWithin_entry (keeps : engine.KeepsBudgets) (bench : Bench σ) (call : Call) :
    ∀ timed ∈ timedStretches (engine.tick (engine.answer call bench.engine).2)
      [bench.entry engine call], timed.IsWithin := by
  cases call with
  | simulate limit =>
      intro timed member
      obtain rfl := List.mem_singleton.mp member
      rintro budget rfl
      have kept := keeps budget bench.engine
      exact Nat.sub_le_iff_le_add'.mpr kept
  | instantiate | checkpoint | switchCores | dumpStatistics | resetStatistics =>
      simp [timedStretches, entry, LedgerEntry.stretch?]

theorem Step.exists_isWithin (keeps : engine.KeepsBudgets)
    (step : Step engine calls before after) :
    ∃ entry, after.ledger = before.ledger ++ [entry] ∧ entry.tick = engine.tick before.engine ∧
      ∀ timed ∈ timedStretches (engine.tick after.engine) [entry], timed.IsWithin := by
  cases step with
  | call call => exact ⟨_, rfl, rfl, isWithin_entry keeps before call⟩
  | @handOver _ batch | @breakDown _ batch =>
      exact ⟨_, rfl, rfl, isWithin_entry keeps (before.taken batch) (.switchCores batch)⟩

/-- Whatever is done at a bench, no stretch takes more than its budget. -/
theorem Steps.exists_isWithin (keeps : engine.KeepsBudgets)
    (steps : Steps engine calls before after) :
    ∃ rest, after.ledger = before.ledger ++ rest ∧
      ∀ timed ∈ timedStretches (engine.tick after.engine) rest, timed.IsWithin := by
  -- The last call of a ledger is timed by its end, and the calls before it by the last.
  induction steps with
  | refl => exact ⟨[], by simp, by simp [timedStretches]⟩
  | @tail middle after _ step ih =>
      obtain ⟨rest, ledgerEq, within⟩ := ih
      obtain ⟨last, grown, tick, lastWithin⟩ := step.exists_isWithin keeps
      refine ⟨rest ++ [last], by rw [grown, ledgerEq, List.append_assoc], ?_⟩
      have start : startTick [last] (engine.tick after.engine) = engine.tick middle.engine := tick
      rw [timedStretches_append, start]
      exact List.forall_mem_append.mpr ⟨within, lastWithin⟩

end Bench

/-- A list whose images are in groups is in groups itself. -/
theorem exists_flatten_of_map_eq_flatten {α β : Type} {view : α → β} {items : List α}
    {parts : List (List β)} (grouped : items.map view = parts.flatten) :
    ∃ groups : List (List α), items = groups.flatten ∧ groups.map (·.map view) = parts := by
  induction parts generalizing items with
  | nil => exact ⟨[], by simpa using grouped, rfl⟩
  | cons part parts ih =>
      rw [List.flatten_cons, List.map_eq_append_iff] at grouped
      obtain ⟨first, others, rfl, rfl, grouped⟩ := grouped
      obtain ⟨groups, rfl, rfl⟩ := ih grouped
      exact ⟨first :: groups, rfl, rfl⟩

namespace Phase

variable {phase : Phase} {block : List Stretch}

/-- All stretches of a block but one ended with a request for a checkpoint. -/
theorem IsBlock.length_le (isBlock : phase.IsBlock block) :
    block.length ≤ block.countP Stretch.isRequest + 1 := by
  have requests : block.dropLast.countP Stretch.isRequest = block.dropLast.length := by
    rw [List.countP_eq_length]
    intro stretch member
    obtain ⟨event, answer, asks⟩ := isBlock.checkpoints stretch member
    simpa [Stretch.isRequest, answer] using asks
  have fewer := (List.dropLast_sublist block).countP_le (p := Stretch.isRequest)
  rw [requests, List.length_dropLast] at fewer
  omega

end Phase

theorem Blocks.forall₂ {phases : List Phase} {blocks : List (List Stretch)}
    (follows : Blocks phases blocks) :
    List.Forall₂ Phase.IsBlock (phases.take blocks.length) blocks := by
  induction follows with
  | none => exact .nil
  | last isBlock => exact .cons isBlock .nil
  | next isBlock _ _ _ _ ih => exact .cons isBlock ih

/-- Stretches take the budget of a phase no more than once and once again for each request for a
checkpoint. -/
def Phase.Spends (phase : Phase) (block : List TimedStretch) : Prop :=
  ∀ budget, phase.ticks = some budget → (block.map (·.ticks)).sum ≤
    ((block.map (·.stretch)).countP Stretch.isRequest + 1) * budget.toNat

theorem Phase.spends_of_isWithin {phase : Phase} {block : List TimedStretch}
    (isBlock : phase.IsBlock (block.map (·.stretch)))
    (within : ∀ timed ∈ block, timed.IsWithin) : phase.Spends block := by
  intro budget limited
  have each : ∀ ticks ∈ block.map (·.ticks), ticks ≤ budget.toNat := by
    rw [List.forall_mem_map]
    intro timed member
    refine within timed member budget ?_
    rw [isBlock.limit _ (List.mem_map_of_mem member), limited]
  calc (block.map (·.ticks)).sum
      ≤ (block.map (·.ticks)).length • budget.toNat := List.sum_le_card_nsmul _ _ each
    _ = (block.map (·.stretch)).length * budget.toNat := by simp
    _ ≤ _ := Nat.mul_le_mul_right _ isBlock.length_le

theorem Blocks.forall₂_spends {phases : List Phase} {groups : List (List TimedStretch)}
    (follows : Blocks phases (groups.map (·.map (·.stretch))))
    (within : ∀ timed ∈ groups.flatten, timed.IsWithin) :
    List.Forall₂ Phase.Spends (phases.take groups.length) groups := by
  have isBlocks := follows.forall₂
  rw [List.length_map, List.forall₂_map_right_iff] at isBlocks
  refine List.forall₂_iff_zip.mpr ⟨isBlocks.length_eq, fun {phase block} member => ?_⟩
  refine Phase.spends_of_isWithin (List.forall₂_zip isBlocks member) fun timed among => ?_
  exact within timed (List.mem_flatten.mpr ⟨block, (List.of_mem_zip member).2, among⟩)

/-- A scripted engine takes no time to respond to a call that simulates nothing. -/
theorem ScriptedState.tick_respond {call : Call} (other : ∀ limit, call ≠ .simulate limit)
    (state : ScriptedState) : (state.respond call).2.tick = state.tick := by
  rw [respond]
  split
  · rfl
  · cases call with
    | simulate limit => exact absurd rfl (other limit)
    | instantiate | checkpoint | switchCores | dumpStatistics | resetStatistics => rfl

namespace Script

/-- A scripted engine keeps to budgets, as a stretch takes just its budget, or stops at the
largest tick. -/
theorem keepsBudgets (script : Script) : script.engine.KeepsBudgets := by
  intro budget state
  simp only [engine, ScriptedState.respond]
  split
  · exact Nat.le_add_right _ _
  · rw [ScriptedState.answer]
    split
    · exact Nat.le_add_right _ _
    · simp [ScriptedState.advance]

/-- Its other calls take no time. -/
theorem tick_answer (script : Script) {call : Call} (other : ∀ limit, call ≠ .simulate limit)
    (state : ScriptedState) :
    script.engine.tick (script.engine.answer call state).2 = script.engine.tick state := by
  have same : (state.respond call).2.tick = state.tick := ScriptedState.tick_respond other state
  cases call with
  | simulate limit => exact absurd rfl (other limit)
  | resetStatistics =>
      simp only [engine]
      split
      · exact same
      · rfl
  | instantiate | checkpoint | switchCores | dumpStatistics => exact same

end Script

namespace Action

open Bench

variable {σ : Type} {engine : Engine σ} {before after : Bench σ}

/-- Each phase of a run takes its budget no more than once and once again for each request for a
checkpoint.  So a phase that is not interrupted keeps to its budget. -/
theorem run_spends_budgets (keeps : engine.KeepsBudgets) {topology : Topology}
    {options : RunOptions} {patience : Nat} {result : Except Halt Outcome}
    (ended : Ends (run engine topology options patience) before result after) :
    ∃ opened warmed rest phases blocks,
      Ends (opening engine topology options patience) before opened warmed ∧
      after.ledger = warmed.ledger ++ rest ∧
      phases = (if options.phases = [] then [⟨before.controller.sequence.first, none⟩]
        else options.phases) ∧
      timedStretches (engine.tick after.engine) rest = blocks.flatten ∧
      Blocks phases (blocks.map (·.map (·.stretch))) ∧
      List.Forall₂ Phase.Spends (phases.take blocks.length) blocks := by
  obtain ⟨halt, rfl, failed⟩ | ⟨⟨quanta, exited⟩, warmed, warm, onward⟩ := ends_run ended
  · exact ⟨_, after, [], _, [], failed, by simp, rfl, rfl, .none _, .nil⟩
  have steps := (stepwise_closing (fun _ => trivial) options patience _ onward).1
  obtain ⟨rest, ledgerEq, within⟩ := steps.exists_isWithin keeps
  have views := map_stretch_timedStretches rest (engine.tick after.engine)
  cases exited with
  | some event =>
      obtain ⟨silent, silentEq, none⟩ := stretches_of_exited onward
      obtain rfl := List.append_cancel_left (ledgerEq.symm.trans silentEq)
      refine ⟨_, warmed, rest, _, [], warm, ledgerEq, rfl, ?_, .none _, .nil⟩
      exact List.map_eq_nil_iff.mp (views.trans none)
  | none =>
      obtain ⟨phased, blocks, phasedEq, flat, follows, -⟩ := blocks_of_closing onward
      obtain rfl := List.append_cancel_left (ledgerEq.symm.trans phasedEq)
      obtain ⟨groups, groupsEq, rfl⟩ := exists_flatten_of_map_eq_flatten (views.trans flat)
      rw [(stepwise_opening topology options patience warm).1.sequence_eq] at follows
      refine ⟨_, warmed, rest, _, groups, warm, ledgerEq, schedule_eq .., groupsEq, follows, ?_⟩
      exact follows.forall₂_spends (groupsEq ▸ within)

/-- A phase of 100 ticks. -/
def hundredTicks : RunOptions where
  phases := [⟨.atomic, some 100⟩]

/-- A phase of 100 ticks that asks for a checkpoint takes 100 ticks before it and 100 after. -/
theorem ends_hundredTicks :
    ∃ outcome after,
      Ends (run (Script.engine {}) .dual hundredTicks 4) benchOfDual (.ok outcome) after ∧
      (timedStretches after.engine.tick after.ledger).map (·.ticks) = [100, 100] := by
  have runs : yields (run (Script.engine {}) .dual hundredTicks 4 >>= fun _ => get >>= pure)
      benchOfDual fun bench =>
        (timedStretches bench.engine.tick bench.ledger).map (·.ticks) = [100, 100] := by
    decide +kernel
  obtain ⟨bench, after, ended, took⟩ := exists_ends_of_yields runs
  obtain ⟨outcome, last, ran, read⟩ := ends_bind_ok_iff.mp ended
  obtain ⟨rfl, rfl⟩ := ends_pure_ok_iff.mp (ends_get_bind_iff.mp read)
  exact ⟨outcome, _, ran, of_decide_eq_true took⟩

theorem run_spends_budgets_hundredTicks :
    ∃ outcome after rest blocks,
      Ends (run (Script.engine {}) .dual hundredTicks 4) benchOfDual (.ok outcome) after ∧
      rest <:+ after.ledger ∧ timedStretches after.engine.tick rest = blocks.flatten ∧
      Blocks hundredTicks.phases (blocks.map (·.map (·.stretch))) ∧
      List.Forall₂ Phase.Spends (hundredTicks.phases.take blocks.length) blocks := by
  obtain ⟨outcome, after, ended, -⟩ := ends_hundredTicks
  obtain ⟨-, warmed, rest, phases, blocks, -, ledgerEq, rfl, flat, follows, spends⟩ :=
    run_spends_budgets (Script.keepsBudgets {}) ended
  exact ⟨outcome, after, rest, blocks, ended, ⟨_, ledgerEq.symm⟩, flat, follows, spends⟩

/-- Not every phase keeps to its budget, though the engine keeps to budgets and takes no time
otherwise. -/
theorem not_within_budget_hundredTicks :
    (Script.engine {}).KeepsBudgets ∧
      (∀ call, (∀ limit, call ≠ .simulate limit) → ∀ state, (Script.engine {}).tick
        ((Script.engine {}).answer call state).2 = (Script.engine {}).tick state) ∧
      ∃ outcome after,
        Ends (run (Script.engine {}) .dual hundredTicks 4) benchOfDual (.ok outcome) after ∧
        ¬ ((timedStretches after.engine.tick after.ledger).map (·.ticks)).sum ≤ 100 := by
  refine ⟨Script.keepsBudgets {}, fun call other => Script.tick_answer {} other, ?_⟩
  obtain ⟨outcome, after, ended, took⟩ := ends_hundredTicks
  exact ⟨outcome, after, ended, by rw [took]; decide⟩

end Action

end Mainboard
