import Mainboard.Proofs.Bench.Steps

/-!
# Arriving at a fidelity

A cluster that is walked to a fidelity without a fault is there, and no other
cluster has moved.  Entering a fidelity walks cluster after cluster, so that in
the end all of them are on it.
-/

namespace Mainboard

namespace Controller

/-- Every slot of every cluster is on a fidelity. -/
structure IsOn (controller : Controller) (fidelity : CoreModel) : Prop where
  cluster : ∀ cluster < controller.sets.length, controller.activeFidelity? cluster = some fidelity
  slot : ∀ set ∈ controller.sets, ∀ slot ∈ set.slots,
    controller.sequence.model? slot.active = some fidelity ∧
      (slot.instances.map (·.model) = controller.sequence.models →
        slot.activeInstance.model = fidelity)

theorem isOn_of_position? {controller : Controller} {fidelity : CoreModel}
    (arrived : ∀ cluster < controller.sets.length, ∃ goal,
      controller.sequence.position? fidelity = some goal ∧
        controller.position? cluster = some goal) : controller.IsOn fidelity where
  cluster := by
    intro cluster inside
    obtain ⟨goal, found, position⟩ := arrived cluster inside
    rw [activeFidelity?_eq, position, Option.bind_some, FidelitySequence.model?_of_position? found]
  slot := by
    intro set member slot listed
    obtain ⟨cluster, inside, rfl⟩ := List.getElem_of_mem member
    obtain ⟨goal, found, position⟩ := arrived cluster inside
    rw [position?_of_found (List.getElem?_eq_getElem inside)] at position
    have active := (SlotSet.commonActive?_eq_some_iff.mp position).2 slot listed
    have model := FidelitySequence.model?_of_position? found
    refine ⟨active ▸ model, fun models => ?_⟩
    rw [FidelitySequence.model?, ← models, List.getElem?_map] at model
    obtain ⟨made, stored, rfl⟩ := Option.map_eq_some_iff.mp model
    rw [Slot.activeInstance, active, Slot.instanceAt, List.getD_eq_getElem?_getD, stored,
      Option.getD_some]

end Controller

namespace Action

open Bench

variable {σ : Type} {engine : Engine σ} {before after : Bench σ}

theorem position?_of_walk {cluster goal rounds done count : Nat} {target : CoreModel}
    (ended : Ends (walk engine cluster goal target rounds done) before (.ok count) after) :
    after.controller.position? cluster = some goal := by
  induction rounds generalizing done before with
  | zero => cases (ends_throw_iff.mp ended).1
  | succ rounds ih =>
      obtain ⟨error, -, impossible, -⟩ | ⟨set, found, round⟩ := ends_walk_succ ended
      · cases impossible
      obtain ⟨-, impossible, -⟩ | ⟨arrived, -, rfl⟩ | ⟨source, -, -, onward⟩ := round
      · cases impossible
      · rw [Controller.position?_of_found (Controller.set_eq_ok_iff.mp found), arrived]
      · obtain ⟨halt, impossible, -⟩ | ⟨_, middle, -, rest⟩ := ends_bind_iff.mp onward
        · cases impossible
        · exact ih rest

theorem position?_of_stepToward {cluster count : Nat} {target : CoreModel}
    (ended : Ends (stepToward engine cluster target) before (.ok count) after) :
    ∃ goal, before.controller.sequence.position? target = some goal ∧
      after.controller.position? cluster = some goal := by
  obtain ⟨-, impossible, -⟩ | ⟨goal, found, walked⟩ := ends_stepToward ended
  · cases impossible
  · exact ⟨goal, found, position?_of_walk walked⟩

/-- A cluster that has arrived stays while the others are walked. -/
theorem isOn_of_enter {fidelity : CoreModel}
    (ended : Ends (enter engine fidelity) before (.ok ()) after) :
    after.controller.IsOn fidelity := by
  rw [enter, ends_get_bind_iff] at ended
  have entered := forM_induction
    (fun done bench => bench.controller.sequence = before.controller.sequence ∧
      bench.controller.sets.length = before.controller.sets.length ∧
      ∀ cluster ∈ done, ∃ goal, bench.controller.sequence.position? fidelity = some goal ∧
        bench.controller.position? cluster = some goal)
    ⟨rfl, rfl, by simp⟩ ?_ ended
  · obtain ⟨-, lengthEq, arrived⟩ := entered
    apply Controller.isOn_of_position?
    intro cluster inside
    exact arrived cluster (List.mem_range.mpr (lengthEq ▸ inside))
  · intro done cluster middle next earlier ended
    obtain ⟨sequenceEq, lengthEq, arrived⟩ := earlier
    obtain ⟨halt, impossible, -⟩ | ⟨count, between, walked, rest⟩ := ends_bind_iff.mp ended
    · cases impossible
    obtain ⟨-, rfl⟩ := ends_pure_iff.mp rest
    -- All that is handed over meanwhile is cores of this cluster.
    have steps : Steps engine (Call.IsWithin cluster) middle next :=
      (stepwise_stepToward cluster fidelity Call.isWithin_switchCores walked).1
    refine ⟨steps.sequence_eq.trans sequenceEq, steps.length_sets.trans lengthEq, ?_⟩
    intro other member
    rw [steps.sequence_eq]
    by_cases same : other = cluster
    · subst same
      exact position?_of_stepToward walked
    · have earlier : other ∈ done := by
        rcases List.mem_append.mp member with earlier | latest
        · exact earlier
        · exact absurd (List.mem_singleton.mp latest) same
      obtain ⟨goal, found, position⟩ := arrived other earlier
      refine ⟨goal, found, ?_⟩
      rw [Controller.position?_congr (steps.getElem?_sets_of_isWithin same), position]

end Action

end Mainboard
