import Mainboard.Proofs.Switching.Registry

/-!
# Tokens in flight

A registry is consistent if the tokens of its batches increase, stay below the
next one, and every token that a cluster has in flight belongs to a batch that
its own controller began there and that still fits: the cluster is where the
batch starts, and the batch leads to the position next to it.  Nothing that a
registry serves makes it inconsistent.  An errand begins and completes batches
of its own, but it spares every cluster that is in flight when it starts.
-/

namespace Mainboard

namespace Controller

variable {before middle after : Controller} {batch : Batch}

/-- Clusters in flight are left alone, and none is in flight afterwards that was not before. -/
def Spares (before after : Controller) : Prop :=
  ∀ cluster, (before.flight? cluster).isSome ∨ (after.flight? cluster).isSome →
    after.sets[cluster]? = before.sets[cluster]?

theorem Spares.refl (controller : Controller) : Spares controller controller :=
  fun _ _ => rfl

theorem Spares.trans (first : Spares before middle) (second : Spares middle after) :
    Spares before after := by
  intro cluster flying
  rcases flying with early | late
  · have same := first cluster (.inl early)
    have still : (middle.flight? cluster).isSome := by rwa [flight?_congr same]
    rw [second cluster (.inl still), same]
  · have same := second cluster (.inr late)
    have already : (middle.flight? cluster).isSome := by rwa [← flight?_congr same]
    rw [same, first cluster (.inr already)]

theorem Spares.flight?_eq (spares : Spares before after) (cluster : Nat) :
    after.flight? cluster = before.flight? cluster := by
  cases early : before.flight? cluster with
  | some token =>
      rw [flight?_congr (spares cluster (.inl (by simp [early]))), early]
  | none =>
      cases late : after.flight? cluster with
      | none => rfl
      | some token =>
          have same := flight?_congr (spares cluster (.inr (by simp [late])))
          rw [← late, same, early]

theorem spares_completed {token : Nat} {set : SlotSet} (begins : Begins before token set batch)
    (way : Completion) : Spares before (before.completed way batch) := by
  intro cluster flying
  by_cases same : batch.cluster = cluster
  · subst same
    rw [begins.flight?] at flying
    cases way with
    | commit => simp [completed, flight?_committed] at flying
    | abort => simp [completed, flight?_aborted] at flying
  · cases way with
    | commit => exact getElem?_committed_of_ne same
    | abort => exact getElem?_aborted_of_ne same

theorem sequence_completed (way : Completion) :
    (before.completed way batch).sequence = before.sequence := by
  cases way <;> rfl

theorem flight?_completed (way : Completion) :
    (before.completed way batch).flight? batch.cluster = none := by
  cases way with
  | commit => exact flight?_committed
  | abort => exact flight?_aborted

theorem getElem?_completed_of_ne (way : Completion) {cluster : Nat}
    (apart : batch.cluster ≠ cluster) :
    (before.completed way batch).sets[cluster]? = before.sets[cluster]? := by
  cases way with
  | commit => exact getElem?_committed_of_ne apart
  | abort => exact getElem?_aborted_of_ne apart

end Controller

namespace Bench

variable {σ : Type} {engine : Engine σ} {calls : Call → Prop} {before after : Bench σ}

/-- What steps never do: take back a token, exchange the sequence, or touch a
cluster in flight. -/
structure Advances (before after : Bench σ) : Prop where
  sequence_eq : after.controller.sequence = before.controller.sequence
  nextToken_le : before.nextToken ≤ after.nextToken
  spares : before.controller.Spares after.controller

theorem Step.advances (step : Step engine calls before after) : Advances before after := by
  cases step with
  | call call named other => exact ⟨rfl, Nat.le_refl _, .refl _⟩
  | handOver named begun answered =>
      obtain ⟨set, begins⟩ := (Controller.begin_eq_ok begun).2.2
      exact ⟨rfl, Nat.le_succ _, Controller.spares_completed begins .commit⟩
  | breakDown named begun answered =>
      obtain ⟨set, begins⟩ := (Controller.begin_eq_ok begun).2.2
      exact ⟨rfl, Nat.le_succ _, Controller.spares_completed begins .abort⟩

theorem Steps.advances (steps : Steps engine calls before after) : Advances before after := by
  induction steps with
  | refl => exact ⟨rfl, Nat.le_refl _, .refl _⟩
  | tail _ step ih =>
      have last := step.advances
      exact ⟨last.sequence_eq.trans ih.sequence_eq, Nat.le_trans ih.nextToken_le last.nextToken_le,
        ih.spares.trans last.spares⟩

end Bench

theorem Errand.stepwise {σ : Type} (engine : Engine σ) (errand : Errand) :
    Action.Stepwise engine (fun _ => True) (errand.action engine) := by
  cases errand with
  | switchSlots cluster requests => exact Action.stepwise_switchSlots _ _ fun _ _ => trivial
  | switchTo cluster target => exact Action.stepwise_switchTo _ _ fun _ _ => trivial
  | stepToward cluster target =>
      exact .bind (Action.stepwise_stepToward _ _ fun _ _ => trivial) fun _ => .pure _
  | revertAll => exact Action.stepwise_revertAll fun _ => trivial
  | run topology options patience =>
      exact .bind (Action.stepwise_run (fun _ => trivial) ..) fun _ => .pure _

namespace Registry

/-- A batch fits the cluster that has its token in flight. -/
structure Fits (controller : Controller) (batch : Batch) : Prop where
  source_eq : controller.position? batch.cluster = some batch.source
  adjacent : Controller.adjacent batch.source batch.target
  target_lt : batch.target < controller.sequence.length

/-- The tokens of a registry are in order. -/
structure Consistent (registry : Registry) : Prop where
  increasing : registry.begun.Pairwise fun earlier later => earlier.2.token < later.2.token
  below : ∀ entry ∈ registry.begun, entry.2.token < registry.nextToken
  flights : ∀ {number : Nat} {controller : Controller} {cluster token : Nat},
    registry.controllers[number]? = some controller → controller.flight? cluster = some token →
    ∃ (serial : Nat) (batch : Batch), registry.begun[serial]? = some (number, batch) ∧
      batch.cluster = cluster ∧ batch.token = token ∧ Fits controller batch

namespace Consistent

variable {registry next : Registry} {number : Nat} {controller : Controller}

theorem serial_eq (consistent : registry.Consistent) {first second : Nat}
    {firstEntry secondEntry : Nat × Batch} (firstListed : registry.begun[first]? = some firstEntry)
    (secondListed : registry.begun[second]? = some secondEntry)
    (same : firstEntry.2.token = secondEntry.2.token) : first = second := by
  obtain ⟨firstInside, rfl⟩ := List.getElem?_eq_some_iff.mp firstListed
  obtain ⟨secondInside, rfl⟩ := List.getElem?_eq_some_iff.mp secondListed
  have ordered := List.pairwise_iff_getElem.mp consistent.increasing
  rcases Nat.lt_trichotomy first second with earlier | rfl | later
  · exact absurd same (Nat.ne_of_lt (ordered first second firstInside secondInside earlier))
  · rfl
  · exact absurd same.symm (Nat.ne_of_lt (ordered second first secondInside firstInside later))

/-- A token in flight is that of the batch that holds it. -/
theorem fits_of_holds (consistent : registry.Consistent)
    (found : registry.controllers[number]? = some controller) {serial owner : Nat} {batch : Batch}
    (listed : registry.begun[serial]? = some (owner, batch))
    (holds : controller.flight? batch.cluster = some batch.token) :
    owner = number ∧ Fits controller batch := by
  obtain ⟨other, candidate, candidateListed, -, token, fits⟩ := consistent.flights found holds
  obtain rfl := consistent.serial_eq candidateListed listed token
  obtain ⟨rfl, rfl⟩ := Prod.mk.inj (Option.some.inj (candidateListed.symm.trans listed))
  exact ⟨rfl, fits⟩

theorem add (consistent : registry.Consistent)
    (found : registry.controllers[number]? = some controller) {set : SlotSet} {batch : Batch}
    (begins : controller.Begins registry.nextToken set batch) :
    (registry.add number controller batch).Consistent where
  increasing := by
    refine List.pairwise_append.mpr ⟨consistent.increasing, List.pairwise_singleton _ _, ?_⟩
    intro earlier listed later added
    obtain rfl := List.mem_singleton.mp added
    rw [begins.token_eq]
    exact consistent.below earlier listed
  below := by
    intro entry listed
    rcases List.mem_append.mp listed with earlier | added
    · exact Nat.lt_succ_of_lt (consistent.below entry earlier)
    · obtain rfl := List.mem_singleton.mp added
      exact Nat.lt_succ_of_le (Nat.le_of_eq begins.token_eq)
  flights := by
    intro other after cluster token otherFound flying
    by_cases caller : number = other
    · subst caller
      have inside := (List.getElem?_eq_some_iff.mp found).1
      obtain rfl : controller.held batch = after := by
        simpa [Registry.add, List.getElem?_set_self inside] using otherFound
      by_cases same : batch.cluster = cluster
      · subst same
        refine ⟨registry.begun.length, batch, ?_, rfl, ?_, ?_⟩
        · simp [Registry.add]
        · rw [Controller.flight?_held begins.found] at flying
          exact Option.some.inj flying
        · exact ⟨Controller.position?_held.trans begins.position?, begins.adjacent,
            begins.target_lt⟩
      -- The position of a cluster is not touched when a batch begins, so that
      -- whatever fitted there goes on fitting.
      · rw [Controller.flight?_congr (Controller.getElem?_held_of_ne same)] at flying
        obtain ⟨serial, older, listed, clusterEq, tokenEq, fits⟩ := consistent.flights found flying
        refine ⟨serial, older, ?_, clusterEq, tokenEq, ?_⟩
        · exact List.getElem?_append_left (List.getElem?_eq_some_iff.mp listed).1 ▸ listed
        · exact ⟨Controller.position?_held.trans fits.source_eq, fits.adjacent, fits.target_lt⟩
    · rw [Registry.add, List.getElem?_set_ne caller] at otherFound
      obtain ⟨serial, older, listed, rest⟩ := consistent.flights otherFound flying
      refine ⟨serial, older, ?_, rest⟩
      exact List.getElem?_append_left (List.getElem?_eq_some_iff.mp listed).1 ▸ listed

/-- A controller may change as long as it has nothing new in flight. -/
theorem replace (consistent : registry.Consistent)
    (found : registry.controllers[number]? = some controller) {after : Controller} {token : Nat}
    (sequence_eq : after.sequence = controller.sequence)
    (spares : ∀ cluster, (after.flight? cluster).isSome →
      after.sets[cluster]? = controller.sets[cluster]?)
    (later : registry.nextToken ≤ token) :
    Consistent { registry.replace number after with nextToken := token } where
  increasing := consistent.increasing
  below := fun entry listed => Nat.lt_of_lt_of_le (consistent.below entry listed) later
  flights := by
    intro other current cluster flying otherFound otherFlying
    by_cases caller : number = other
    · subst caller
      have inside := (List.getElem?_eq_some_iff.mp found).1
      obtain rfl : after = current := by
        simpa [Registry.replace, List.getElem?_set_self inside] using otherFound
      have same := spares cluster (by simp [otherFlying])
      rw [Controller.flight?_congr same] at otherFlying
      obtain ⟨serial, batch, listed, rfl, tokenEq, fits⟩ := consistent.flights found otherFlying
      refine ⟨serial, batch, listed, rfl, tokenEq, ?_, fits.adjacent, ?_⟩
      · rw [Controller.position?_congr same, fits.source_eq]
      · rw [sequence_eq]
        exact fits.target_lt
    · rw [Registry.replace, List.getElem?_set_ne caller] at otherFound
      exact consistent.flights otherFound otherFlying

theorem serves (consistent : registry.Consistent) {event : Event}
    (found : registry.controllers[number]? = some controller)
    (serves : registry.Serves number controller event next) : next.Consistent := by
  cases serves with
  | begun begun =>
      obtain ⟨set, begins⟩ := (Controller.begin_eq_ok begun).2.2
      exact consistent.add found begins
  | refused refused => exact consistent
  | completed listed holds =>
      rename_i way serial owner batch
      refine consistent.replace found (Controller.sequence_completed way) ?_ (Nat.le_refl _)
      intro cluster flying
      by_cases same : batch.cluster = cluster
      · subst same
        simp [Controller.flight?_completed] at flying
      · exact Controller.getElem?_completed_of_ne way same
  | stale listed free => exact consistent
  | errand ended =>
      have advances := (Errand.stepwise _ _ ended).1.advances
      exact consistent.replace found advances.sequence_eq
        (fun cluster flying => advances.spares cluster (.inr flying)) advances.nextToken_le

end Consistent

/-- A registry of new controllers, at which nothing has begun. -/
structure Opened (registry : Registry) : Prop where
  new : ∀ controller ∈ registry.controllers, ∃ topology sequence options,
    Controller.new topology sequence options = .ok controller
  begun_eq : registry.begun = []

theorem opened_duals : Registry.duals.Opened where
  new := by
    intro controller member
    simp only [Registry.duals, List.mem_cons, List.not_mem_nil, or_false, or_self] at member
    subst member
    exact ⟨.dual, .standard, {}, Controller.new_dual⟩
  begun_eq := rfl

theorem opened_twins : Registry.twins.Opened where
  new := by
    intro controller member
    obtain rfl := List.mem_singleton.mp member
    exact ⟨.twins, .standard, {}, Controller.new_twins⟩
  begun_eq := rfl

/-- A registry comes about from another by the answers to some requests, in order. -/
inductive Reaches (start : Registry) : List Event → Registry → Prop
  | start : Reaches start [] start
  | next {events : List Event} {registry next : Registry} {number : Nat} {request : Request}
      {event : Event} (earlier : Reaches start events registry)
      (served : registry.serve number request = some (event, next)) :
      Reaches start (events ++ [event]) next

theorem Opened.consistent {registry : Registry} (opened : registry.Opened) :
    registry.Consistent where
  increasing := by simp [opened.begun_eq]
  below := by simp [opened.begun_eq]
  flights := by
    intro number controller cluster token found flying
    obtain ⟨topology, sequence, options, built⟩ :=
      opened.new controller (List.mem_of_getElem? found)
    rw [Controller.flight?_new built] at flying
    cases flying

theorem Reaches.consistent {start registry : Registry} {events : List Event}
    (opened : start.Opened) (reached : start.Reaches events registry) : registry.Consistent := by
  induction reached with
  | start => exact opened.consistent
  | next earlier served ih =>
      obtain ⟨-, -, controller, found, serves⟩ := serves_of_serve served
      exact ih.serves found serves

end Registry

end Mainboard
