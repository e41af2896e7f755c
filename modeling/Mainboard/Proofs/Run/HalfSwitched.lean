import Mainboard.Proofs.Run.Checkpoints
import Mainboard.Proofs.Run.Failures

/-!
# Half-switched clusters at checkpoints

A cluster is half switched while a batch of it is in flight, and for good once
one was aborted.  Whether a checkpoint may be written is decided by positions
alone, so that a cluster that a run finds half switched on the first fidelity is
no obstacle.  A run makes no such cluster of its own, since it ends with the
first hand-over that fails: at each of its checkpoints the half-switched clusters
are those that it found, and are as it found them.
-/

open Mainboard.Action

namespace Mainboard

/-- A batch of the cluster is in flight, or was aborted. -/
def SlotSet.IsHalfSwitched (set : SlotSet) : Prop := set.isPoisoned ∨ set.isInFlight

theorem SlotSet.isHalfSwitched_iff {set : SlotSet} : set.IsHalfSwitched ↔ set.state ≠ .idle := by
  cases state : set.state <;> simp [IsHalfSwitched, isPoisoned, isInFlight, state]

namespace Controller

variable {before middle after : Controller} {batch : Batch}

/-- A cluster of a controller is half switched, and this is its set. -/
structure HalfSwitched (controller : Controller) (cluster : Nat) (set : SlotSet) : Prop where
  found : controller.sets[cluster]? = some set
  half : set.IsHalfSwitched

/-- The half-switched clusters are the same, and nothing about them has changed. -/
def PassesOver (before after : Controller) : Prop :=
  ∀ cluster set, after.HalfSwitched cluster set ↔ before.HalfSwitched cluster set

theorem PassesOver.refl (controller : Controller) : PassesOver controller controller :=
  fun _ _ => Iff.rfl

theorem PassesOver.trans (first : PassesOver before middle) (second : PassesOver middle after) :
    PassesOver before after :=
  fun cluster set => (second cluster set).trans (first cluster set)

/-- A batch begins on a cluster that is not half switched, and leaves none once it is committed. -/
theorem Begins.passesOver {token : Nat} {set : SlotSet}
    (begins : Begins before token set batch) : PassesOver before (before.committed batch) := by
  intro cluster other
  by_cases same : batch.cluster = cluster
  · subst same
    have whole : ¬ set.IsHalfSwitched := by
      rw [SlotSet.isHalfSwitched_iff]
      exact not_not_intro begins.idle
    constructor
    · rintro ⟨found, half⟩
      rw [committed, getElem?_modifySet_self _ begins.found] at found
      obtain rfl := Option.some.inj found
      exact absurd rfl (SlotSet.isHalfSwitched_iff.mp half)
    · rintro ⟨found, half⟩
      obtain rfl := Option.some.inj (begins.found.symm.trans found)
      exact absurd half whole
  · have kept : (before.committed batch).sets[cluster]? = before.sets[cluster]? :=
      getElem?_committed_of_ne same
    constructor
    · rintro ⟨found, half⟩
      exact ⟨kept ▸ found, half⟩
    · rintro ⟨found, half⟩
      exact ⟨kept.trans found, half⟩

end Controller

/-- No call of a trace has failed. -/
def Unfailed (trace : List LedgerEntry) : Prop :=
  ∀ entry ∈ trace, ∀ message, entry.answer ≠ .error message

namespace Bench

variable {σ : Type} {engine : Engine σ} {calls : Call → Prop} {before after : Bench σ}

/-- A step adds one call.  It passes over half-switched clusters unless the call fails, and until
the call is made unless this hands cores over. -/
theorem Step.exists_entry_passesOver (step : Step engine calls before after) :
    ∃ entry, after.ledger = before.ledger ++ [entry] ∧
      ((∀ message, entry.answer ≠ .error message) →
        before.controller.PassesOver after.controller) ∧
      ((∀ batch, entry.call ≠ .switchCores batch) →
        before.controller.PassesOver entry.controller) := by
  cases step with
  | call call named other => exact ⟨_, rfl, fun _ => .refl _, fun _ => .refl _⟩
  | handOver named begun answered =>
      obtain ⟨set, begins⟩ := (Controller.begin_eq_ok begun).2.2
      exact ⟨_, rfl, fun _ => begins.passesOver, fun other => absurd rfl (other _)⟩
  | breakDown named begun answered =>
      exact ⟨_, rfl, fun unfailed => absurd answered (unfailed _),
        fun other => absurd rfl (other _)⟩

/-- Until a call fails, and at every call until then that hands no cores over, the half-switched
clusters are those from the start. -/
theorem Steps.exists_rest_passesOver (steps : Steps engine calls before after) :
    ∃ rest, after.ledger = before.ledger ++ rest ∧
      (Unfailed rest → before.controller.PassesOver after.controller) ∧
      ∀ front entry later, rest = front ++ entry :: later → Unfailed front →
        (∀ batch, entry.call ≠ .switchCores batch) →
        before.controller.PassesOver entry.controller := by
  induction steps with
  | refl => exact ⟨[], by simp, fun _ => .refl _, by simp⟩
  | tail _ step ih =>
      obtain ⟨rest, ledgerEq, passes, passesAt⟩ := ih
      obtain ⟨last, grown, passesNext, passesHere⟩ := step.exists_entry_passesOver
      refine ⟨rest ++ [last], by rw [grown, ledgerEq, List.append_assoc], ?_, ?_⟩
      · intro unfailed
        obtain ⟨earlier, latest⟩ := List.forall_mem_append.mp unfailed
        exact (passes earlier).trans (passesNext (latest last List.mem_cons_self))
      · intro front entry later split unfailed other
        -- The call is the one that the step has added, or one of those before.
        obtain rfl | ⟨others, final, rfl⟩ := List.eq_nil_or_concat later
        · obtain ⟨rfl, rfl⟩ := List.append_singleton_inj.mp split
          exact (passes unfailed).trans (passesHere other)
        · rw [List.concat_eq_append, ← List.cons_append, ← List.append_assoc] at split
          exact passesAt front entry others (List.append_inj_left' split rfl) unfailed other

end Bench

namespace Registry

/-- Whatever its controller has been asked for before, the clusters that are poisoned or in flight
when a run calls for a checkpoint are those that it found so when it began.  They have not changed
since, and like all others they are on the first fidelity. -/
theorem Reaches.checkpoints_half_switched_found {σ : Type} {start registry : Registry}
    {events : List Event} {number : Nat} {machine : Topology} {sequence : FidelitySequence}
    {switching : SwitchOptions} {fresh controller : Controller} (untouched : start.Opened)
    (first : start.controllers[number]? = some fresh)
    (built : Controller.new machine sequence switching = .ok fresh)
    (reached : start.Reaches events registry)
    (found : registry.controllers[number]? = some controller) {engine : Engine σ} {state : σ}
    {topology : Topology} {options : RunOptions} {patience : Nat} {result : Except Halt Outcome}
    {after : Bench σ}
    (ended : Ends (run engine topology options patience) (registry.bench controller state)
      result after) :
    ∀ entry ∈ after.ledger, ∀ directory, entry.call = .checkpoint directory →
      entry.controller.IsOnFirst ∧
        (∀ cluster set, entry.controller.HalfSwitched cluster set ↔
          controller.HalfSwitched cluster set) ∧
        ((∀ set ∈ controller.sets, ¬ set.IsHalfSwitched) →
          ∀ set ∈ entry.controller.sets, ¬ set.IsHalfSwitched) := by
  obtain ⟨current, same, follows⟩ :=
    reached.follows untouched first (Controller.follows_new built)
  obtain rfl := Option.some.inj (same.symm.trans found)
  have steps := (stepwise_run (fun _ => trivial) topology options patience ended).1
  obtain ⟨made, madeEq, kept⟩ := steps.exists_rest_follows follows
  obtain rfl : after.ledger = made := madeEq
  obtain ⟨trace, traceEq, settled⟩ := leaves_savesSettled_run ended
  obtain rfl : after.ledger = trace := traceEq
  obtain ⟨calls, callsEq, -, passes⟩ := steps.exists_rest_passesOver
  obtain rfl : after.ledger = calls := callsEq
  obtain ⟨stopped, stoppedEq, stops, -⟩ := allowsRuns_stopsAtFailure.leaves_run _ _ _ ended
  obtain rfl : after.ledger = stopped := stoppedEq
  intro entry member directory saves
  obtain ⟨front, later, split⟩ := List.append_of_mem member
  -- A call that has failed would have been the last.
  have unfailed : Unfailed front := by
    intro failed inside message answer
    obtain ⟨before, between, rfl⟩ := List.append_of_mem inside
    rw [List.append_assoc] at split
    have final := (stops before failed _ _ split ⟨message, answer, rfl⟩).1
    simp at final
  have passed := passes front entry later split unfailed (by simp [saves])
  refine ⟨((kept entry member).isOnFirst_iff built).mpr (settled entry member directory saves),
    passed, fun whole set inside half => ?_⟩
  obtain ⟨cluster, stored⟩ := List.getElem?_of_mem inside
  have earlier := (passed cluster set).mp ⟨stored, half⟩
  exact whole set (List.mem_of_getElem? earlier.found) earlier.half

/-- Two equal controllers, of which the first could not have its cluster handed over. -/
def poisonedDuals : Registry where
  controllers := [Controller.dual.aborted .dual, .dual]
  nextToken := 2

theorem exists_reaches_poisonedDuals : ∃ events, duals.Reaches events poisonedDuals := by
  have served : ∃ event, duals.serve 0 (.errand (Script.engine .failsToSwitch)
      (.ofScript .failsToSwitch) (.switchTo 0 .timing)) = some (event, poisonedDuals) :=
    ⟨_, rfl⟩
  obtain ⟨event, served⟩ := served
  exact ⟨_, Reaches.start.next served⟩

/-- The poisoned cluster is the one that the run has found. -/
theorem checkpoints_half_switched_found_poisoned :
    ∃ after entry directory set,
      (∃ outcome, Ends (run (Script.engine {}) .dual {} 2)
        (poisonedDuals.bench (Controller.dual.aborted .dual)
          (.ofScript { events := [.checkpointRequest] })) (.ok outcome) after) ∧
      entry ∈ after.ledger ∧ entry.call = .checkpoint directory ∧
      entry.controller.IsOnFirst ∧ entry.controller.HalfSwitched 0 set := by
  have ends : ∃ after outcome entry directory,
      Ends (run (Script.engine {}) .dual {} 2)
        (poisonedDuals.bench (Controller.dual.aborted .dual)
          (.ofScript { events := [.checkpointRequest] })) (.ok outcome) after ∧
      after.ledger[2]? = some entry ∧ entry.call = .checkpoint directory :=
    ⟨_, _, _, _, rfl, rfl, rfl⟩
  obtain ⟨after, outcome, entry, directory, ended, listed, saves⟩ := ends
  have half : ∃ set, (Controller.dual.aborted .dual).HalfSwitched 0 set :=
    ⟨_, rfl, .inl rfl⟩
  obtain ⟨set, half⟩ := half
  obtain ⟨events, reached⟩ := exists_reaches_poisonedDuals
  have member := List.mem_of_getElem? listed
  obtain ⟨settled, found, -⟩ := Reaches.checkpoints_half_switched_found opened_duals
    (show duals.controllers[0]? = some .dual from rfl) Controller.new_dual reached
    (show poisonedDuals.controllers[0]? = some (Controller.dual.aborted .dual) from rfl)
    ended entry member directory saves
  exact ⟨after, entry, directory, set, ⟨outcome, ended⟩, member, saves, settled,
    (found 0 set).mpr half⟩

/-- A run writes a checkpoint with a poisoned cluster, and with one that is in flight, if it finds
them so. -/
theorem writes_checkpoint_half_switched :
    (∃ events registry controller after outcome entry directory set,
      duals.Reaches events registry ∧ registry.controllers[0]? = some controller ∧
      Ends (run (Script.engine {}) .dual {} 2)
        (registry.bench controller (.ofScript { events := [.checkpointRequest] }))
        (.ok outcome) after ∧
      after.ledger[2]? = some entry ∧ entry.call = .checkpoint directory ∧
      entry.controller.sets[0]? = some set ∧ set.isPoisoned) ∧
    ∃ events registry controller after outcome entry directory set,
      duals.Reaches events registry ∧ registry.controllers[0]? = some controller ∧
      Ends (run (Script.engine {}) .dual {} 2)
        (registry.bench controller (.ofScript { events := [.checkpointRequest] }))
        (.ok outcome) after ∧
      after.ledger[2]? = some entry ∧ entry.call = .checkpoint directory ∧
      entry.controller.sets[0]? = some set ∧ set.isInFlight := by
  constructor
  · obtain ⟨events, reached⟩ := exists_reaches_poisonedDuals
    exact ⟨events, poisonedDuals, _, _, _, _, _, _, reached, rfl, rfl, rfl, rfl, rfl, rfl⟩
  · have begun : duals.serve 0 (.begin 0 [(0, .timing), (1, .timing)]) = some
        (⟨0, .begin 0 [(0, .timing), (1, .timing)], .ok (), []⟩, duals.add 0 .dual .dual) :=
      rfl
    exact ⟨_, _, _, _, _, _, _, _, Reaches.start.next begun, rfl, rfl, rfl, rfl, rfl, rfl⟩

end Registry

end Mainboard
