import Mainboard.Proofs.Switching.Instances

/-!
# Back on the first fidelity

Checkpoints are written while every slot of every cluster is on the first
fidelity.  The check goes by positions and names the first slot, cluster by
cluster, whose position is another; for a controller that follows a new one
these are the slots whose active instance has another model.
-/

namespace Mainboard

/-- Models are not repeated in a sequence, so that only its first position has the first. -/
theorem FidelitySequence.eq_zero_of_model? {sequence : FidelitySequence} {position : Nat}
    (first : sequence.model? position = some sequence.first) : position = 0 := by
  rw [← model?_zero] at first
  have positive := List.length_pos_iff.mpr sequence.nonempty
  exact ((List.getElem?_inj positive sequence.distinct).mp first.symm).symm

/-- The instance of the first fidelity is active in a slot. -/
structure Slot.IsOnFirst (sequence : FidelitySequence) (slot : Slot) : Prop where
  active_eq : slot.active = 0
  model_eq : slot.activeInstance.model = sequence.first

namespace Controller

/-- Every slot of every cluster is on the first fidelity. -/
def IsOnFirst (controller : Controller) : Prop :=
  ∀ set ∈ controller.sets, ∀ slot ∈ set.slots, slot.IsOnFirst controller.sequence

/-- A slot is the first, cluster by cluster, that is off the first fidelity. -/
structure FirstOff (controller : Controller) (set : SlotSet) (index : Nat) (slot : Slot) :
    Prop where
  clusters : ∃ before after, controller.sets = before ++ set :: after ∧
    ∀ earlier ∈ before, ∀ other ∈ earlier.slots, other.IsOnFirst controller.sequence
  found : set.slots[index]? = some slot
  off : slot.activeInstance.model ≠ controller.sequence.first
  slots : ∀ other ∈ set.slots.take index, other.IsOnFirst controller.sequence

theorem offFirst?_eq_none_iff {set : SlotSet} :
    offFirst? set = none ↔ ∀ slot ∈ set.slots, slot.active = 0 := by
  rw [offFirst?, List.find?_eq_none]
  constructor
  · intro settled slot member
    obtain ⟨index, inside, rfl⟩ := List.getElem_of_mem member
    simpa using settled (index, set.slots[index]) (List.mem_mapIdx.mpr ⟨index, inside, rfl⟩)
  · intro settled entry member
    obtain ⟨index, inside, rfl⟩ := List.mem_mapIdx.mp member
    simpa using settled _ (List.getElem_mem inside)

theorem offFirst?_eq_some {set : SlotSet} {index : Nat} {slot : Slot}
    (off : offFirst? set = some (index, slot)) :
    set.slots[index]? = some slot ∧ slot.active ≠ 0 ∧
      ∀ other ∈ set.slots.take index, other.active = 0 := by
  obtain ⟨moved, place, inside, here, earlier⟩ := List.find?_eq_some_iff_getElem.mp off
  rw [List.getElem_mapIdx, Prod.mk.injEq] at here
  obtain ⟨rfl, rfl⟩ := here
  refine ⟨List.getElem?_eq_getElem _, by simpa using moved, ?_⟩
  intro other member
  obtain ⟨before, bound, rfl⟩ := List.getElem_of_mem member
  rw [List.length_take] at bound
  have settled := earlier before (by omega)
  rw [List.getElem_mapIdx] at settled
  simpa using settled

theorem ensureCheckpointable_eq_ok_iff {controller : Controller} :
    controller.ensureCheckpointable = .ok () ↔
      ∀ set ∈ controller.sets, ∀ slot ∈ set.slots, slot.active = 0 := by
  rw [ensureCheckpointable, Except.forM_eq_ok_iff]
  apply forall₂_congr
  intro set _
  rw [← offFirst?_eq_none_iff]
  cases offFirst? set <;> simp

/-- A checkpoint is refused for the first slot that is on another position. -/
theorem exists_off_of_ensureCheckpointable {controller : Controller} {error : Error}
    (refused : controller.ensureCheckpointable = .error error) :
    ∃ before set after index slot, controller.sets = before ++ set :: after ∧
      (∀ earlier ∈ before, ∀ other ∈ earlier.slots, other.active = 0) ∧
      offFirst? set = some (index, slot) ∧
      error = .checkpointFidelity set.cluster index slot.activeInstance.model
        controller.sequence.first := by
  obtain ⟨before, set, after, split, failed, earlier⟩ := Except.forM_eq_error_iff.mp refused
  have settled : ∀ earlier ∈ before, ∀ other ∈ earlier.slots, other.active = 0 := by
    intro cluster member
    rw [← offFirst?_eq_none_iff]
    have passed := earlier cluster member
    cases off : offFirst? cluster with
    | none => rfl
    | some entry => simp [off] at passed
  cases off : offFirst? set with
  | none => simp [off] at failed
  | some entry =>
      simp only [off, Except.error.injEq] at failed
      exact ⟨before, set, after, entry.1, entry.2, split, settled, off, failed.symm⟩

namespace Follows

variable {topology : Topology} {sequence : FidelitySequence} {options : SwitchOptions}
variable {fresh controller : Controller}

/-- The active instance of a slot has the model at its position. -/
theorem model?_active (built : Controller.new topology sequence options = .ok fresh)
    (follows : fresh.Follows controller) {set : SlotSet} (member : set ∈ controller.sets)
    {slot : Slot} (inside : slot ∈ set.slots) :
    controller.sequence.model? slot.active = some slot.activeInstance.model := by
  obtain ⟨cluster, found⟩ := List.getElem?_of_mem member
  obtain ⟨origin, first, position, bound, state, rfl⟩ := follows.exists_placed found
  obtain ⟨made, original, rfl⟩ := List.mem_map.mp inside
  rw [follows.sequence_eq]
  exact (model?_of_new built (List.mem_of_getElem? first) original bound).2

theorem isOnFirst_iff_active (built : Controller.new topology sequence options = .ok fresh)
    (follows : fresh.Follows controller) {set : SlotSet} (member : set ∈ controller.sets)
    {slot : Slot} (inside : slot ∈ set.slots) :
    slot.IsOnFirst controller.sequence ↔ slot.active = 0 := by
  refine ⟨Slot.IsOnFirst.active_eq, fun settled => ⟨settled, ?_⟩⟩
  have model := follows.model?_active built member inside
  rw [settled, FidelitySequence.model?_zero] at model
  exact (Option.some.inj model).symm

theorem model_ne_first (built : Controller.new topology sequence options = .ok fresh)
    (follows : fresh.Follows controller) {set : SlotSet} (member : set ∈ controller.sets)
    {slot : Slot} (inside : slot ∈ set.slots) (moved : slot.active ≠ 0) :
    slot.activeInstance.model ≠ controller.sequence.first := by
  intro same
  have model := follows.model?_active built member inside
  rw [same] at model
  exact moved (FidelitySequence.eq_zero_of_model? model)

theorem isOnFirst_iff (built : Controller.new topology sequence options = .ok fresh)
    (follows : fresh.Follows controller) :
    controller.IsOnFirst ↔ controller.ensureCheckpointable = .ok () := by
  rw [ensureCheckpointable_eq_ok_iff]
  exact forall₂_congr fun set member => forall₂_congr fun slot inside =>
    follows.isOnFirst_iff_active built member inside

/-- The slot that a refusal names is the first that is off the first fidelity. -/
theorem firstOff_of_refused (built : Controller.new topology sequence options = .ok fresh)
    (follows : fresh.Follows controller) {error : Error}
    (refused : controller.ensureCheckpointable = .error error) :
    ∃ set index slot, controller.FirstOff set index slot ∧
      error = .checkpointFidelity set.cluster index slot.activeInstance.model
        controller.sequence.first := by
  obtain ⟨before, set, after, index, slot, split, earlier, off, rfl⟩ :=
    exists_off_of_ensureCheckpointable refused
  obtain ⟨found, moved, settled⟩ := offFirst?_eq_some off
  have member : set ∈ controller.sets := by simp [split]
  have listed : ∀ cluster ∈ before, cluster ∈ controller.sets := by
    intro cluster inside
    simp [split, inside]
  refine ⟨set, index, slot, ⟨⟨before, after, split, ?_⟩, found, ?_, ?_⟩, rfl⟩
  · intro cluster inside other present
    exact (follows.isOnFirst_iff_active built (listed cluster inside) present).mpr
      (earlier cluster inside other present)
  · exact follows.model_ne_first built member (List.mem_of_getElem? found) moved
  · intro other present
    exact (follows.isOnFirst_iff_active built member (List.mem_of_mem_take present)).mpr
      (settled other present)

end Follows

end Controller

end Mainboard
