import Mainboard.Proofs.Switching.Flights

/-!
# Batches complete once

Which batches are still outstanding is read off the answers that a registry has
given: those that nobody has committed or aborted.  They are the batches in
flight.  A batch is completed by the controller that began it while it is
outstanding, and by nobody else and at no other time, so that no batch is
completed twice and no cluster has two outstanding batches.
-/

namespace Mainboard

/-- Whether an event completes a batch. -/
def Event.completes (serial : Nat) (event : Event) : Bool :=
  match event.request, event.reply with
  | .complete _ named, .ok _ => named = serial
  | _, _ => false

namespace Registry

/-- No event has completed a batch. -/
def Outstanding (events : List Event) (serial : Nat) : Prop :=
  ∀ event ∈ events, event.completes serial = false

variable {registry next start : Registry} {events : List Event} {event : Event}
variable {number serial : Nat} {controller : Controller}

theorem outstanding_append_iff :
    Outstanding (events ++ [event]) serial ↔
      Outstanding events serial ∧ event.completes serial = false := by
  simp [Outstanding, or_imp, forall_and]

theorem outstanding_append_of_silent (silent : event.completes serial = false) :
    Outstanding (events ++ [event]) serial ↔ Outstanding events serial := by
  rw [outstanding_append_iff, and_iff_left silent]

theorem countP_append_of_silent (silent : event.completes serial = false) :
    (events ++ [event]).countP (Event.completes serial) =
      events.countP (Event.completes serial) := by
  rw [List.countP_append, List.countP_singleton, silent]
  rfl

theorem countP_of_outstanding (outstanding : Outstanding events serial) :
    events.countP (Event.completes serial) = 0 := by
  rw [List.countP_eq_zero]
  intro event member completes
  rw [outstanding event member] at completes
  cases completes

/-- The events of a registry account for the tokens that are in flight. -/
structure Tracks (events : List Event) (registry : Registry) : Prop where
  consistent : registry.Consistent
  owned : ∀ {serial owner : Nat} {batch : Batch}, registry.begun[serial]? = some (owner, batch) →
    owner < registry.controllers.length
  listed : ∀ {serial : Nat}, ¬ Outstanding events serial → serial < registry.begun.length
  flying_iff : ∀ {serial owner : Nat} {batch : Batch} {controller : Controller},
    registry.begun[serial]? = some (owner, batch) →
    registry.controllers[owner]? = some controller →
    (controller.flight? batch.cluster = some batch.token ↔ Outstanding events serial)
  once : ∀ serial, events.countP (Event.completes serial) ≤ 1

namespace Tracks

theorem opened (opened : registry.Opened) : Tracks [] registry where
  consistent := opened.consistent
  owned := by simp [opened.begun_eq]
  listed := by simp [Outstanding]
  flying_iff := by simp [opened.begun_eq]
  once := by simp

/-- An event that neither begins nor completes a batch. -/
theorem quiet (tracks : Tracks events registry)
    (found : registry.controllers[number]? = some controller) (consistent : next.Consistent)
    (begun : next.begun = registry.begun) {after : Controller}
    (changed : next.controllers = registry.controllers.set number after)
    (same : ∀ cluster, after.flight? cluster = controller.flight? cluster)
    (silent : ∀ serial, event.completes serial = false) : Tracks (events ++ [event]) next where
  consistent := consistent
  owned := by
    intro serial owner batch listed
    rw [changed, List.length_set]
    exact tracks.owned (begun ▸ listed)
  listed := by
    intro serial completed
    rw [outstanding_append_of_silent (silent serial)] at completed
    rw [begun]
    exact tracks.listed completed
  flying_iff := by
    intro serial owner batch current listed currentFound
    rw [outstanding_append_of_silent (silent serial)]
    rw [begun] at listed
    rw [changed] at currentFound
    by_cases caller : number = owner
    · subst caller
      have inside := (List.getElem?_eq_some_iff.mp found).1
      rw [List.getElem?_set_self inside] at currentFound
      obtain rfl := Option.some.inj currentFound
      rw [same]
      exact tracks.flying_iff listed found
    · rw [List.getElem?_set_ne caller] at currentFound
      exact tracks.flying_iff listed currentFound
  once := by
    intro serial
    rw [countP_append_of_silent (silent serial)]
    exact tracks.once serial

/-- The batch that begins is in flight, and those before it are where they were. -/
theorem flying_begun (tracks : Tracks events registry)
    (found : registry.controllers[number]? = some controller) {set : SlotSet} {batch : Batch}
    (begins : controller.Begins registry.nextToken set batch) {owner : Nat} {other : Batch}
    {current : Controller}
    (listed : (registry.begun ++ [(number, batch)])[serial]? = some (owner, other))
    (currentFound : (registry.controllers.set number (controller.held batch))[owner]? =
      some current) :
    current.flight? other.cluster = some other.token ↔ Outstanding events serial := by
  have inside := (List.getElem?_eq_some_iff.mp found).1
  by_cases newest : serial = registry.begun.length
  · subst newest
    rw [List.getElem?_concat_length] at listed
    obtain ⟨rfl, rfl⟩ := Prod.mk.inj (Option.some.inj listed)
    rw [List.getElem?_set_self inside] at currentFound
    obtain rfl := Option.some.inj currentFound
    have outstanding : Outstanding events registry.begun.length :=
      Classical.byContradiction fun completed => Nat.lt_irrefl _ (tracks.listed completed)
    exact iff_of_true (Controller.flight?_held begins.found) outstanding
  · have earlier : serial < registry.begun.length := by
      have bound := (List.getElem?_eq_some_iff.mp listed).1
      rw [List.length_append, List.length_singleton] at bound
      omega
    rw [List.getElem?_append_left earlier] at listed
    by_cases caller : number = owner
    · subst caller
      rw [List.getElem?_set_self inside] at currentFound
      obtain rfl := Option.some.inj currentFound
      rw [← tracks.flying_iff listed found]
      by_cases same : batch.cluster = other.cluster
      -- The cluster was idle, so the older batch was complete, and the new token is not its own.
      · have apart : batch.token ≠ other.token := by
          rw [begins.token_eq]
          exact Nat.ne_of_gt (tracks.consistent.below _ (List.mem_of_getElem? listed))
        rw [← same, Controller.flight?_held begins.found, begins.flight?]
        simp [apart]
      · rw [Controller.flight?_congr (Controller.getElem?_held_of_ne same)]
    · rw [List.getElem?_set_ne caller] at currentFound
      exact tracks.flying_iff listed currentFound

theorem begun (tracks : Tracks events registry)
    (found : registry.controllers[number]? = some controller) {set : SlotSet} {batch : Batch}
    (begins : controller.Begins registry.nextToken set batch)
    (silent : ∀ serial, event.completes serial = false) :
    Tracks (events ++ [event]) (registry.add number controller batch) where
  consistent := tracks.consistent.add found begins
  owned := by
    intro serial owner other listed
    rw [add, List.length_set]
    rcases List.mem_append.mp (List.mem_of_getElem? listed) with earlier | added
    · obtain ⟨older, olderListed⟩ := List.getElem?_of_mem earlier
      exact tracks.owned olderListed
    · obtain ⟨rfl, -⟩ := Prod.mk.inj (List.mem_singleton.mp added)
      exact (List.getElem?_eq_some_iff.mp found).1
  listed := by
    intro serial completed
    rw [outstanding_append_of_silent (silent serial)] at completed
    rw [add, List.length_append]
    exact Nat.lt_succ_of_lt (tracks.listed completed)
  flying_iff := by
    intro serial owner other current listed currentFound
    rw [outstanding_append_of_silent (silent serial)]
    exact tracks.flying_begun found begins listed currentFound
  once := by
    intro serial
    rw [countP_append_of_silent (silent serial)]
    exact tracks.once serial

/-- The batch that is completed is in flight no more, and no other batch was there. -/
theorem flying_completed (tracks : Tracks events registry) {owner otherOwner other : Nat}
    {batch otherBatch : Batch} {current : Controller}
    (found : registry.controllers[owner]? = some controller)
    (listed : registry.begun[serial]? = some (owner, batch))
    (holds : controller.flight? batch.cluster = some batch.token) (way : Completion)
    (otherListed : registry.begun[other]? = some (otherOwner, otherBatch))
    (currentFound : (registry.controllers.set owner (controller.completed way batch))[otherOwner]? =
      some current) :
    current.flight? otherBatch.cluster = some otherBatch.token ↔
      Outstanding events other ∧ serial ≠ other := by
  have inside := (List.getElem?_eq_some_iff.mp found).1
  by_cases same : serial = other
  · subst same
    obtain ⟨rfl, rfl⟩ := Prod.mk.inj (Option.some.inj (listed.symm.trans otherListed))
    rw [List.getElem?_set_self inside] at currentFound
    obtain rfl := Option.some.inj currentFound
    simp [Controller.flight?_completed]
  rw [and_iff_left same]
  by_cases caller : owner = otherOwner
  · subst caller
    rw [List.getElem?_set_self inside] at currentFound
    obtain rfl := Option.some.inj currentFound
    rw [← tracks.flying_iff otherListed found]
    by_cases cluster : batch.cluster = otherBatch.cluster
    -- The cluster held the batch that is completed, and so no other of its batches.
    · have apart : batch.token ≠ otherBatch.token := fun tokens =>
        same (tracks.consistent.serial_eq listed otherListed tokens)
      rw [← cluster, Controller.flight?_completed, holds]
      simp [apart]
    · rw [Controller.flight?_congr (Controller.getElem?_completed_of_ne way cluster)]
  · rw [List.getElem?_set_ne caller] at currentFound
    exact tracks.flying_iff otherListed currentFound

theorem completed (tracks : Tracks events registry)
    (found : registry.controllers[number]? = some controller) {owner : Nat} {batch : Batch}
    (listed : registry.begun[serial]? = some (owner, batch))
    (holds : controller.flight? batch.cluster = some batch.token) (way : Completion)
    (completes : ∀ other, event.completes other = decide (serial = other)) :
    Tracks (events ++ [event]) (registry.replace number (controller.completed way batch)) where
  consistent := tracks.consistent.serves found (.completed listed holds)
  owned := by
    intro other otherOwner otherBatch otherListed
    rw [replace, List.length_set]
    exact tracks.owned otherListed
  listed := by
    intro other done
    by_cases same : serial = other
    · subst same
      exact (List.getElem?_eq_some_iff.mp listed).1
    · have silent : event.completes other = false := by simp [completes, same]
      rw [outstanding_append_of_silent silent] at done
      exact tracks.listed done
  flying_iff := by
    intro other otherOwner otherBatch current otherListed currentFound
    obtain ⟨rfl, -⟩ := tracks.consistent.fits_of_holds found listed holds
    rw [outstanding_append_iff, completes, decide_eq_false_iff_not]
    exact tracks.flying_completed found listed holds way otherListed currentFound
  once := by
    intro other
    by_cases same : serial = other
    · subst same
      obtain ⟨rfl, -⟩ := tracks.consistent.fits_of_holds found listed holds
      have outstanding := (tracks.flying_iff listed found).mp holds
      rw [List.countP_append, countP_of_outstanding outstanding, List.countP_singleton]
      simp [completes]
    · have silent : event.completes other = false := by simp [completes, same]
      rw [countP_append_of_silent silent]
      exact tracks.once other

/-- Whatever a registry serves, its events go on accounting for the tokens in flight. -/
theorem serves (tracks : Tracks events registry)
    (found : registry.controllers[number]? = some controller)
    (serves : registry.Serves number controller event next) : Tracks (events ++ [event]) next := by
  have self : registry.controllers = registry.controllers.set number controller := by
    obtain ⟨inside, rfl⟩ := List.getElem?_eq_some_iff.mp found
    exact (List.set_getElem_self inside).symm
  have consistent := tracks.consistent.serves found serves
  cases serves with
  | begun begun =>
      obtain ⟨set, begins⟩ := (Controller.begin_eq_ok begun).2.2
      exact tracks.begun found begins fun _ => rfl
  | refused refused => exact tracks.quiet found consistent rfl self (fun _ => rfl) fun _ => rfl
  | completed listed holds => exact tracks.completed found listed holds _ fun _ => rfl
  | stale listed free => exact tracks.quiet found consistent rfl self (fun _ => rfl) fun _ => rfl
  | errand ended =>
      have advances := (Errand.stepwise _ _ ended).1.advances
      exact tracks.quiet found consistent rfl rfl advances.spares.flight?_eq fun _ => rfl

end Tracks

theorem Reaches.tracks (opened : start.Opened) (reached : start.Reaches events registry) :
    Tracks events registry := by
  induction reached with
  | start => exact .opened opened
  | next earlier served ih =>
      obtain ⟨-, -, controller, found, serves⟩ := serves_of_serve served
      exact ih.serves found serves

theorem serve_of_holds (found : registry.controllers[number]? = some controller) {owner : Nat}
    {batch : Batch} (listed : registry.begun[serial]? = some (owner, batch))
    (holds : controller.flight? batch.cluster = some batch.token) (way : Completion) :
    registry.serve number (.complete way serial) =
      some (⟨number, .complete way serial, .ok (), []⟩,
        registry.replace number (controller.completed way batch)) := by
  have completed : controller.complete way batch = .ok (controller.completed way batch) :=
    Controller.complete_eq_ok_iff.mpr ⟨holds, rfl⟩
  simp only [serve, found, Option.bind_some, answer, listed, Option.map_some, completed]

theorem serve_of_free (found : registry.controllers[number]? = some controller) {owner : Nat}
    {batch : Batch} (listed : registry.begun[serial]? = some (owner, batch))
    (free : controller.flight? batch.cluster ≠ some batch.token) (way : Completion) :
    registry.serve number (.complete way serial) =
      some (⟨number, .complete way serial,
        .error (.failed (.switch batch.cluster .staleBatch)), []⟩, registry) := by
  have refused : controller.complete way batch = .error (.switch batch.cluster .staleBatch) :=
    Controller.complete_eq_error_iff.mpr ⟨free, rfl⟩
  simp only [serve, found, Option.bind_some, answer, listed, Option.map_some, refused]

namespace Tracks

variable {owner : Nat} {batch : Batch}

/-- A controller holds its own outstanding batches and no others. -/
theorem holds_iff (tracks : Tracks events registry)
    (listed : registry.begun[serial]? = some (owner, batch))
    (found : registry.controllers[number]? = some controller) :
    controller.flight? batch.cluster = some batch.token ↔
      owner = number ∧ Outstanding events serial := by
  constructor
  · intro holds
    obtain ⟨rfl, -⟩ := tracks.consistent.fits_of_holds found listed holds
    exact ⟨rfl, (tracks.flying_iff listed found).mp holds⟩
  · rintro ⟨rfl, outstanding⟩
    exact (tracks.flying_iff listed found).mpr outstanding

theorem isSome_flight?_iff (tracks : Tracks events registry)
    (found : registry.controllers[number]? = some controller) (cluster : Nat) :
    (controller.flight? cluster).isSome ↔
      ∃ serial batch, registry.begun[serial]? = some (number, batch) ∧
        batch.cluster = cluster ∧ Outstanding events serial := by
  constructor
  · intro flying
    obtain ⟨token, flight⟩ := Option.isSome_iff_exists.mp flying
    obtain ⟨serial, batch, listed, rfl, rfl, -⟩ := tracks.consistent.flights found flight
    exact ⟨serial, batch, listed, rfl, (tracks.flying_iff listed found).mp flight⟩
  · rintro ⟨serial, batch, listed, rfl, outstanding⟩
    rw [(tracks.flying_iff listed found).mpr outstanding]
    rfl

/-- A cluster has one outstanding batch at most. -/
theorem eq_of_outstanding (tracks : Tracks events registry) {first second : Nat}
    {firstBatch secondBatch : Batch}
    (firstListed : registry.begun[first]? = some (owner, firstBatch))
    (secondListed : registry.begun[second]? = some (owner, secondBatch))
    (same : firstBatch.cluster = secondBatch.cluster) (early : Outstanding events first)
    (late : Outstanding events second) : first = second := by
  have found := List.getElem?_eq_getElem (tracks.owned firstListed)
  have firstFlies := (tracks.flying_iff firstListed found).mpr early
  have secondFlies := (tracks.flying_iff secondListed found).mpr late
  rw [same, secondFlies] at firstFlies
  exact (tracks.consistent.serial_eq secondListed firstListed (Option.some.inj firstFlies)).symm

/-- Tokens that fit a machine word are told apart by it. -/
theorem word_eq_iff (tracks : Tracks events registry) (fits : registry.nextToken ≤ UInt64.size)
    (listed : registry.begun[serial]? = some (owner, batch))
    (found : registry.controllers[number]? = some controller) {cluster token : Nat}
    (flying : controller.flight? cluster = some token) :
    token.toUInt64 = batch.token.toUInt64 ↔ token = batch.token := by
  obtain ⟨other, held, heldListed, -, rfl, -⟩ := tracks.consistent.flights found flying
  have heldBelow := tracks.consistent.below _ (List.mem_of_getElem? heldListed)
  have below := tracks.consistent.below _ (List.mem_of_getElem? listed)
  have word : ∀ {number : Nat}, number < UInt64.size → number.toUInt64.toNat = number :=
    UInt64.toNat_ofNat_of_lt'
  constructor
  · intro same
    have words := congrArg UInt64.toNat same
    rwa [word (Nat.lt_of_lt_of_le heldBelow fits), word (Nat.lt_of_lt_of_le below fits)] at words
  · intro same
    rw [same]

end Tracks

/-- A batch is completed by the controller that began it while nobody else has,
and is stale in every other case.  A cluster is in flight exactly while one
batch of it is outstanding, and no batch is completed twice.  Tokens that fit a
machine word are told apart by it. -/
theorem Reaches.only_outstanding_complete (opened : start.Opened)
    (reached : start.Reaches events registry) :
    (∀ {serial owner : Nat} {batch : Batch} {number : Nat} {controller : Controller},
      registry.begun[serial]? = some (owner, batch) →
      registry.controllers[number]? = some controller →
      (controller.flight? batch.cluster = some batch.token ↔
        owner = number ∧ Outstanding events serial) ∧
      ∀ way,
        (owner = number ∧ Outstanding events serial →
          registry.serve number (.complete way serial) =
            some (⟨number, .complete way serial, .ok (), []⟩,
              registry.replace number (controller.completed way batch))) ∧
        (¬ (owner = number ∧ Outstanding events serial) →
          registry.serve number (.complete way serial) =
            some (⟨number, .complete way serial,
              .error (.failed (.switch batch.cluster .staleBatch)), []⟩, registry))) ∧
    (∀ {number : Nat} {controller : Controller} (cluster : Nat),
      registry.controllers[number]? = some controller →
      ((controller.flight? cluster).isSome ↔
        ∃ serial batch, registry.begun[serial]? = some (number, batch) ∧
          batch.cluster = cluster ∧ Outstanding events serial)) ∧
    (∀ {first second owner : Nat} {firstBatch secondBatch : Batch},
      registry.begun[first]? = some (owner, firstBatch) →
      registry.begun[second]? = some (owner, secondBatch) →
      firstBatch.cluster = secondBatch.cluster → Outstanding events first →
      Outstanding events second → first = second) ∧
    (∀ serial, events.countP (Event.completes serial) ≤ 1) ∧
    (registry.nextToken ≤ UInt64.size →
      ∀ {serial owner : Nat} {batch : Batch} {number cluster token : Nat} {controller : Controller},
        registry.begun[serial]? = some (owner, batch) →
        registry.controllers[number]? = some controller →
        controller.flight? cluster = some token →
        (token.toUInt64 = batch.token.toUInt64 ↔ token = batch.token)) := by
  have tracks := reached.tracks opened
  refine ⟨?_, ?_, ?_, tracks.once, ?_⟩
  · intro serial owner batch number controller listed found
    have known := tracks.holds_iff listed found
    refine ⟨known, fun way => ⟨fun fresh => ?_, fun spent => ?_⟩⟩
    · exact serve_of_holds found listed (known.mpr fresh) way
    · exact serve_of_free found listed (fun holds => spent (known.mp holds)) way
  · intro number controller cluster found
    exact tracks.isSome_flight?_iff found cluster
  · intro first second owner firstBatch secondBatch firstListed secondListed same early late
    exact tracks.eq_of_outstanding firstListed secondListed same early late
  · intro fits serial owner batch number cluster token controller listed found flying
    exact tracks.word_eq_iff fits listed found flying

/-- A batch of one of two equal controllers is stale to the other. -/
theorem only_outstanding_complete_dual :
    ∃ events registry, duals.Reaches events registry ∧
      registry.serve 1 (.complete .commit 0) =
        some (⟨1, .complete .commit 0, .error (.failed (.switch 0 .staleBatch)), []⟩,
          registry) := by
  have begun : duals.serve 0 (.begin 0 [(0, .timing), (1, .timing)]) = some
      (⟨0, .begin 0 [(0, .timing), (1, .timing)], .ok (), []⟩, duals.add 0 .dual .dual) :=
    rfl
  have reached := Reaches.start.next begun
  refine ⟨_, _, reached, ?_⟩
  have listed : (duals.add 0 .dual .dual).begun[0]? = some (0, .dual) := rfl
  have found : (duals.add 0 .dual .dual).controllers[1]? = some .dual := rfl
  have answers := (reached.only_outstanding_complete opened_duals).1 listed found
  exact (answers.2 .commit).2 fun both => absurd both.1 (by decide)

end Registry

end Mainboard
