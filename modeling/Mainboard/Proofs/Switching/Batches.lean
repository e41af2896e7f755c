import Mainboard.Proofs.Results
import Mainboard.Switching.Controller

/-!
# What a batch does to a cluster

Beginning a switch, committing its batch and aborting it touch one cluster and
change little of it.  The views here are the position of a cluster and the
token that it has in flight; each of the three operations is described by what
it needs and by the cluster that it leaves.
-/

namespace Mainboard

namespace FidelitySequence

theorem model?_of_position? {sequence : FidelitySequence} {model : CoreModel} {position : Nat}
    (found : sequence.position? model = some position) :
    sequence.model? position = some model := by
  obtain ⟨inside, same, -⟩ := List.idxOf?_eq_some_iff.mp found
  rw [model?, List.getElem?_eq_getElem inside]
  exact congrArg some same

theorem lt_length_of_position? {sequence : FidelitySequence} {model : CoreModel} {position : Nat}
    (found : sequence.position? model = some position) : position < sequence.length := by
  rw [← isSome_model?_iff, model?_of_position? found]
  rfl

end FidelitySequence

namespace SlotSet

/-- The token that a cluster has in flight. -/
def flight? (set : SlotSet) : Option Nat :=
  match set.state with
  | .inFlight token => some token
  | .idle | .poisoned => none

theorem flight?_eq_some_iff {set : SlotSet} {token : Nat} :
    set.flight? = some token ↔ set.state = .inFlight token := by
  cases state : set.state <;> simp [flight?, state]

theorem flight?_of_idle {set : SlotSet} (idle : set.state = .idle) : set.flight? = none := by
  simp [flight?, idle]

theorem commonActive?_eq_some_iff {set : SlotSet} {position : Nat} :
    set.commonActive? = some position ↔
      set.slots ≠ [] ∧ ∀ slot ∈ set.slots, slot.active = position := by
  cases slotsEq : set.slots with
  | nil => simp [commonActive?, slotsEq]
  | cons slot slots =>
      simp only [commonActive?, slotsEq, List.all_eq_true, decide_eq_true_eq, ne_eq,
        reduceCtorEq, not_false_eq_true, true_and, List.forall_mem_cons]
      constructor
      · intro common
        split at common
        · next same =>
            obtain rfl := Option.some.inj common
            exact ⟨rfl, same⟩
        · cases common
      · rintro ⟨rfl, same⟩
        rw [if_pos same]

@[simp]
theorem slots_activate (set : SlotSet) (position : Nat) :
    (set.activate position).slots = set.slots.map fun slot => { slot with active := position } :=
  rfl

theorem commonActive?_activate {set : SlotSet} (position : Nat) (staffed : set.slots ≠ []) :
    (set.activate position).commonActive? = some position := by
  rw [commonActive?_eq_some_iff]
  constructor
  · simpa using staffed
  · simp

theorem commonActive?_congr {first second : SlotSet} (slots : first.slots = second.slots) :
    first.commonActive? = second.commonActive? := by
  rw [commonActive?, commonActive?, slots]

end SlotSet

namespace Controller

variable {controller after : Controller}

/-- The position on which all slots of a cluster are. -/
def position? (controller : Controller) (cluster : Nat) : Option Nat :=
  controller.sets[cluster]?.bind SlotSet.commonActive?

/-- The token that a cluster has in flight. -/
def flight? (controller : Controller) (cluster : Nat) : Option Nat :=
  controller.sets[cluster]?.bind SlotSet.flight?

theorem activeFidelity?_eq (controller : Controller) (cluster : Nat) :
    controller.activeFidelity? cluster =
      (controller.position? cluster).bind controller.sequence.model? := by
  cases found : controller.sets[cluster]? <;>
    simp [activeFidelity?, position?, found]

theorem getElem?_modifySet (controller : Controller) (cluster other : Nat)
    (change : SlotSet → SlotSet) :
    (controller.modifySet cluster change).sets[other]? =
      if cluster = other then controller.sets[other]?.map change
      else controller.sets[other]? := by
  rw [modifySet, List.getElem?_modify]
  split <;> simp

theorem getElem?_modifySet_self {set : SlotSet} {cluster : Nat} (change : SlotSet → SlotSet)
    (found : controller.sets[cluster]? = some set) :
    (controller.modifySet cluster change).sets[cluster]? = some (change set) := by
  rw [getElem?_modifySet, if_pos rfl, found]
  rfl

theorem getElem?_modifySet_of_ne {cluster other : Nat} (change : SlotSet → SlotSet)
    (apart : cluster ≠ other) :
    (controller.modifySet cluster change).sets[other]? = controller.sets[other]? := by
  rw [getElem?_modifySet, if_neg apart]

theorem modifySet_modifySet (controller : Controller) (cluster : Nat)
    (first second : SlotSet → SlotSet) :
    (controller.modifySet cluster first).modifySet cluster second =
      controller.modifySet cluster (second ∘ first) := by
  simp [modifySet, List.modify_modify_eq]

theorem adjacent_iff {source target : Nat} :
    adjacent source target = true ↔ source + 1 = target ∨ target + 1 = source := by
  simp [adjacent]

/-- A planned switch leads an idle cluster to the next position on either side. -/
theorem plan_eq_ok {set : SlotSet} {requests : List (Nat × CoreModel)} {source target : Nat}
    (planned : controller.plan set requests = .ok (source, target)) :
    set.state = .idle ∧ set.commonActive? = some source ∧ adjacent source target ∧
      ∃ slot model rest, requests = (slot, model) :: rest ∧
        controller.sequence.position? model = some target := by
  unfold plan at planned
  simp only [bind, Except.bind, pure, Except.pure, throw, throwThe, MonadExceptOf.throw] at planned
  split at planned
  · cases planned
  · cases planned
  next idle =>
    split at planned
    · cases planned
    split at planned
    · cases planned
    split at planned
    · cases planned
    next slot model rest _ _ =>
      split at planned
      · cases planned
      split at planned
      next goal found =>
        split at planned
        next start common =>
          split at planned
          · cases planned
          · next near =>
            simp only [Except.ok.injEq, Prod.mk.injEq] at planned
            obtain ⟨rfl, rfl⟩ := planned
            exact ⟨idle, common, by simpa using near, slot, model, rest, rfl, found⟩
        · cases planned
      · cases planned

theorem plan_eq_mixedFidelity {set : SlotSet} {requests : List (Nat × CoreModel)}
    (refused : controller.plan set requests = .error .mixedFidelity) :
    set.slots ≠ [] ∧ set.commonActive? = none := by
  unfold plan at refused
  simp only [bind, Except.bind, pure, Except.pure, throw, throwThe, MonadExceptOf.throw] at refused
  split at refused
  · cases refused
  · cases refused
  split at refused
  · cases refused
  split at refused
  · cases refused
  next complete =>
    split at refused
    · cases refused
    next =>
      split at refused
      · cases refused
      split at refused
      · split at refused
        · split at refused <;> cases refused
        next unequal =>
          constructor
          · intro empty
            simp [empty] at complete
          · exact Option.eq_none_iff_forall_ne_some.mpr unequal
      · cases refused

/-- What a cluster and a batch have to do with each other when the batch begins:
the cluster is idle, all its slots are where the batch starts, and the batch
leads to the next position of the sequence on either side. -/
structure Begins (controller : Controller) (token : Nat) (set : SlotSet) (batch : Batch) :
    Prop where
  found : controller.sets[batch.cluster]? = some set
  idle : set.state = .idle
  source_eq : set.commonActive? = some batch.source
  adjacent : adjacent batch.source batch.target
  target_lt : batch.target < controller.sequence.length
  token_eq : batch.token = token
  pairs_eq : batch.pairs = pairs set batch.source batch.target

/-- The controller once a batch holds its cluster. -/
def held (controller : Controller) (batch : Batch) : Controller :=
  controller.modifySet batch.cluster fun set => { set with state := .inFlight batch.token }

/-- The controller once a batch is committed. -/
def committed (controller : Controller) (batch : Batch) : Controller :=
  controller.modifySet batch.cluster fun set => { set.activate batch.target with state := .idle }

/-- The controller once a batch is aborted. -/
def aborted (controller : Controller) (batch : Batch) : Controller :=
  controller.modifySet batch.cluster fun set => { set with state := .poisoned }

theorem set_eq_ok_iff {cluster : Nat} {set : SlotSet} :
    controller.set cluster = .ok set ↔ controller.sets[cluster]? = some set := by
  rw [Controller.set]
  cases controller.sets[cluster]? with
  | none => simp
  | some found => simp

theorem set_eq_error_iff {cluster : Nat} {error : Error} :
    controller.set cluster = .error error ↔
      controller.sets[cluster]? = none ∧ error = .invalid (.noCluster cluster) := by
  rw [Controller.set]
  cases controller.sets[cluster]? with
  | none => simp [eq_comm]
  | some found => simp

/-- A cluster that is there is not missing. -/
theorem set_ne_error {cluster : Nat} (there : cluster < controller.sets.length) (error : Error) :
    controller.set cluster ≠ .error error := by
  intro missing
  have absent := (set_eq_error_iff.mp missing).1
  rw [List.getElem?_eq_none_iff] at absent
  omega

theorem begin_eq_ok {token cluster : Nat} {requests : List (Nat × CoreModel)} {batch : Batch}
    (begun : controller.begin token cluster requests = .ok (batch, after)) :
    batch.cluster = cluster ∧ after = controller.held batch ∧
      ∃ set, Begins controller token set batch := by
  obtain ⟨set, found, begun⟩ := Except.bind_eq_ok_iff.mp begun
  obtain ⟨⟨source, target⟩, planned, begun⟩ := Except.bind_eq_ok_iff.mp begun
  obtain ⟨rfl, rfl⟩ := Prod.mk.inj (Except.ok.inj begun)
  obtain ⟨idle, common, near, slot, model, rest, -, position⟩ :=
    plan_eq_ok (Except.mapError_eq_ok_iff.mp planned)
  refine ⟨rfl, rfl, set, set_eq_ok_iff.mp found, idle, common, near, ?_, rfl, rfl⟩
  exact FidelitySequence.lt_length_of_position? position

/-- A batch is refused for want of its cluster or for a fault of the switch. -/
theorem begin_eq_error {token cluster : Nat} {requests : List (Nat × CoreModel)} {error : Error}
    (refused : controller.begin token cluster requests = .error error) :
    controller.set cluster = .error error ∨ ∃ fault, error = .switch cluster fault := by
  obtain missing | ⟨set, -, refused⟩ := Except.bind_eq_error_iff.mp refused
  · exact .inl missing
  obtain refused | ⟨positions, -, impossible⟩ := Except.bind_eq_error_iff.mp refused
  · obtain ⟨fault, -, rfl⟩ := Except.mapError_eq_error_iff.mp refused
    exact .inr ⟨fault, rfl⟩
  · cases impossible

/-- Slots apart from each other are reported of the cluster in question only. -/
theorem begin_eq_mixedFidelity {token cluster named : Nat} {requests : List (Nat × CoreModel)}
    (refused : controller.begin token cluster requests = .error (.switch named .mixedFidelity)) :
    ∃ set, controller.sets[cluster]? = some set ∧ set.slots ≠ [] ∧ set.commonActive? = none := by
  obtain missing | ⟨set, found, refused⟩ := Except.bind_eq_error_iff.mp refused
  · have impossible := (set_eq_error_iff.mp missing).2
    cases impossible
  obtain refused | ⟨positions, -, impossible⟩ := Except.bind_eq_error_iff.mp refused
  · obtain ⟨fault, planned, same⟩ := Except.mapError_eq_error_iff.mp refused
    obtain ⟨-, rfl⟩ := Error.switch.inj same
    exact ⟨set, set_eq_ok_iff.mp found, plan_eq_mixedFidelity planned⟩
  · cases impossible

/-- A checkpoint is refused for a slot that is not on the first fidelity, and for nothing else. -/
theorem ensureCheckpointable_eq_error {error : Error}
    (refused : controller.ensureCheckpointable = .error error) :
    ∃ cluster slot active required, error = .checkpointFidelity cluster slot active required := by
  obtain ⟨_, set, _, -, off, -⟩ := Except.forM_eq_error_iff.mp refused
  split at off
  · cases off
  · exact ⟨_, _, _, _, (Except.error.inj off).symm⟩

theorem holds_iff {batch : Batch} :
    controller.holds batch = true ↔ controller.flight? batch.cluster = some batch.token := by
  cases found : controller.sets[batch.cluster]? <;>
    simp [holds, flight?, found, SlotSet.flight?_eq_some_iff]

section Completion

variable {batch : Batch}

private theorem completion_eq_ok_iff {completed : Controller} :
    (if controller.holds batch then Except.ok completed
      else .error (.switch batch.cluster .staleBatch)) = (.ok after : Except Error Controller) ↔
      controller.flight? batch.cluster = some batch.token ∧ after = completed := by
  rw [← holds_iff]
  by_cases holds : controller.holds batch = true
  · rw [if_pos holds, Except.ok.injEq]
    exact ⟨fun same => ⟨holds, same.symm⟩, fun held => held.2.symm⟩
  · rw [if_neg holds]
    constructor
    · intro impossible
      cases impossible
    · intro held
      exact absurd held.1 holds

private theorem completion_eq_error_iff {completed : Controller} {error : Error} :
    (if controller.holds batch then Except.ok completed
      else .error (.switch batch.cluster .staleBatch)) = (.error error : Except Error Controller) ↔
      controller.flight? batch.cluster ≠ some batch.token ∧
        error = .switch batch.cluster .staleBatch := by
  rw [ne_eq, ← holds_iff]
  by_cases holds : controller.holds batch = true
  · rw [if_pos holds]
    constructor
    · intro impossible
      cases impossible
    · intro stale
      exact absurd holds stale.1
  · rw [if_neg holds, Except.error.injEq]
    exact ⟨fun same => ⟨holds, same.symm⟩, fun stale => stale.2.symm⟩

theorem commit_eq_ok_iff :
    controller.commit batch = .ok after ↔
      controller.flight? batch.cluster = some batch.token ∧ after = controller.committed batch :=
  completion_eq_ok_iff

theorem commit_eq_error_iff {error : Error} :
    controller.commit batch = .error error ↔
      controller.flight? batch.cluster ≠ some batch.token ∧
        error = .switch batch.cluster .staleBatch :=
  completion_eq_error_iff

theorem abort_eq_ok_iff :
    controller.abort batch = .ok after ↔
      controller.flight? batch.cluster = some batch.token ∧ after = controller.aborted batch :=
  completion_eq_ok_iff

theorem abort_eq_error_iff {error : Error} :
    controller.abort batch = .error error ↔
      controller.flight? batch.cluster ≠ some batch.token ∧
        error = .switch batch.cluster .staleBatch :=
  completion_eq_error_iff

end Completion

section Views

variable {batch : Batch} {set : SlotSet} {other : Nat}

theorem position?_of_found (found : controller.sets[other]? = some set) :
    controller.position? other = set.commonActive? := by
  simp [position?, found]

theorem flight?_of_found (found : controller.sets[other]? = some set) :
    controller.flight? other = set.flight? := by
  simp [flight?, found]

theorem position?_congr (same : after.sets[other]? = controller.sets[other]?) :
    after.position? other = controller.position? other := by
  rw [position?, position?, same]

theorem flight?_congr (same : after.sets[other]? = controller.sets[other]?) :
    after.flight? other = controller.flight? other := by
  rw [flight?, flight?, same]

theorem getElem?_held_of_ne (apart : batch.cluster ≠ other) :
    (controller.held batch).sets[other]? = controller.sets[other]? :=
  getElem?_modifySet_of_ne _ apart

theorem getElem?_committed_of_ne (apart : batch.cluster ≠ other) :
    (controller.committed batch).sets[other]? = controller.sets[other]? :=
  getElem?_modifySet_of_ne _ apart

theorem getElem?_aborted_of_ne (apart : batch.cluster ≠ other) :
    (controller.aborted batch).sets[other]? = controller.sets[other]? :=
  getElem?_modifySet_of_ne _ apart

theorem position?_modifySet_state (controller : Controller) (cluster other : Nat)
    (state : SetState) :
    (controller.modifySet cluster fun set => { set with state }).position? other =
      controller.position? other := by
  rw [position?, position?, getElem?_modifySet]
  split
  · cases controller.sets[other]? <;> rfl
  · rfl

theorem position?_held : (controller.held batch).position? other = controller.position? other :=
  position?_modifySet_state ..

theorem position?_aborted :
    (controller.aborted batch).position? other = controller.position? other :=
  position?_modifySet_state ..

theorem flight?_held (found : controller.sets[batch.cluster]? = some set) :
    (controller.held batch).flight? batch.cluster = some batch.token := by
  rw [held, flight?_of_found (getElem?_modifySet_self _ found)]
  rfl

theorem flight?_committed : (controller.committed batch).flight? batch.cluster = none := by
  rw [flight?, committed, getElem?_modifySet, if_pos rfl]
  cases controller.sets[batch.cluster]? <;> rfl

theorem flight?_aborted : (controller.aborted batch).flight? batch.cluster = none := by
  rw [flight?, aborted, getElem?_modifySet, if_pos rfl]
  cases controller.sets[batch.cluster]? <;> rfl

theorem position?_committed {source : Nat}
    (start : controller.position? batch.cluster = some source) :
    (controller.committed batch).position? batch.cluster = some batch.target := by
  cases found : controller.sets[batch.cluster]? with
  | none => simp [position?, found] at start
  | some set =>
      rw [position?_of_found found, SlotSet.commonActive?_eq_some_iff] at start
      rw [committed, position?_of_found (getElem?_modifySet_self _ found)]
      have activated := SlotSet.commonActive?_activate batch.target start.1
      exact (SlotSet.commonActive?_congr rfl).trans activated

theorem committed_held : (controller.held batch).committed batch = controller.committed batch :=
  modifySet_modifySet ..

theorem aborted_held : (controller.held batch).aborted batch = controller.aborted batch :=
  modifySet_modifySet ..

theorem Begins.position? {token : Nat} (begins : Begins controller token set batch) :
    controller.position? batch.cluster = some batch.source :=
  (position?_of_found begins.found).trans begins.source_eq

theorem Begins.flight? {token : Nat} (begins : Begins controller token set batch) :
    controller.flight? batch.cluster = none :=
  (flight?_of_found begins.found).trans (SlotSet.flight?_of_idle begins.idle)

theorem Begins.commit {token : Nat} (begins : Begins controller token set batch) :
    (controller.held batch).commit batch = .ok (controller.committed batch) :=
  commit_eq_ok_iff.mpr ⟨flight?_held begins.found, committed_held.symm⟩

theorem Begins.abort {token : Nat} (begins : Begins controller token set batch) :
    (controller.held batch).abort batch = .ok (controller.aborted batch) :=
  abort_eq_ok_iff.mpr ⟨flight?_held begins.found, aborted_held.symm⟩

end Views

end Controller

end Mainboard
