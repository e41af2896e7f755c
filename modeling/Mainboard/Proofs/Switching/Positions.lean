import Mainboard.Proofs.Switching.Flights

/-!
# The slots of a cluster move together

Whatever a registry serves, the slots of a cluster stay on one position of the
sequence and keep the instances they were made with.  A cluster moves when a
batch of it is committed and at no other time, and then by one position.
`Moves` follows a controller from one such change to the next; the batches that
it lists are those committed, in order.
-/

namespace Mainboard

namespace Controller

/-- A controller changes by beginning, aborting and committing batches.  Only a
commit moves a cluster, that of its batch, from one position to the next. -/
inductive Moves (first : Controller) : List Batch → Controller → Prop
  | refl : Moves first [] first
  | begin {batches : List Batch} {before after : Controller} {token cluster : Nat}
      {requests : List (Nat × CoreModel)} {batch : Batch} (earlier : Moves first batches before)
      (begun : before.begin token cluster requests = .ok (batch, after))
      (still : ∀ other, after.position? other = before.position? other) :
      Moves first batches after
  | abort {batches : List Batch} {before after : Controller} {batch : Batch}
      (earlier : Moves first batches before) (aborted : before.abort batch = .ok after)
      (still : ∀ other, after.position? other = before.position? other) :
      Moves first batches after
  | commit {batches : List Batch} {before after : Controller} {batch : Batch}
      {source target : Nat} (earlier : Moves first batches before)
      (committed : before.commit batch = .ok after)
      (source_eq : before.position? batch.cluster = some source)
      (target_eq : after.position? batch.cluster = some target)
      (near : source + 1 = target ∨ target + 1 = source)
      (others : ∀ other ≠ batch.cluster, after.position? other = before.position? other) :
      Moves first (batches ++ [batch]) after

variable {first before after : Controller} {batches : List Batch} {batch : Batch}

theorem Moves.held (moves : Moves first batches before) {token : Nat}
    {requests : List (Nat × CoreModel)}
    (begun : before.begin token batch.cluster requests = .ok (batch, before.held batch)) :
    Moves first batches (before.held batch) :=
  moves.begin begun fun _ => position?_held

theorem Moves.aborted (moves : Moves first batches before)
    (holds : before.flight? batch.cluster = some batch.token) :
    Moves first batches (before.aborted batch) :=
  moves.abort (abort_eq_ok_iff.mpr ⟨holds, rfl⟩) fun _ => position?_aborted

theorem Moves.committed (moves : Moves first batches before)
    (holds : before.flight? batch.cluster = some batch.token)
    (source_eq : before.position? batch.cluster = some batch.source)
    (near : adjacent batch.source batch.target) :
    Moves first (batches ++ [batch]) (before.committed batch) :=
  moves.commit (commit_eq_ok_iff.mpr ⟨holds, rfl⟩) source_eq (position?_committed source_eq)
    (adjacent_iff.mp near)
    fun _ apart => position?_congr (getElem?_committed_of_ne (Ne.symm apart))

end Controller

namespace Bench

variable {σ : Type} {engine : Engine σ} {calls : Call → Prop} {before after : Bench σ}
variable {fresh : Controller}

/-- The controller of a bench moves by the batches that the engine hands over. -/
theorem Steps.moves (steps : Steps engine calls before after) :
    ∃ entries, after.ledger = before.ledger ++ entries ∧
      before.controller.Moves (entries.filterMap LedgerEntry.handedOver?) after.controller := by
  induction steps with
  | refl => exact ⟨[], by simp, .refl⟩
  | tail _ step ih =>
      rename_i middle after _
      obtain ⟨entries, ledgerEq, moves⟩ := ih
      cases step with
      | call call named other =>
          refine ⟨entries ++ [middle.entry engine call], by simp [ledgerEq], ?_⟩
          simpa [handedOver?_entry_of_other other] using moves
      | handOver named begun answered =>
          rename_i batch
          obtain ⟨set, begins⟩ := (Controller.begin_eq_ok begun).2.2
          refine ⟨entries ++ [(middle.taken batch).entry engine (.switchCores batch)],
            by simp [ledgerEq, taken], ?_⟩
          have handed : ((middle.taken batch).entry engine (.switchCores batch)).handedOver? =
              some batch :=
            handedOver?_entry_of_ok answered
          have held := moves.held begun
          have committed := held.committed (Controller.flight?_held begins.found)
            (Controller.position?_held.trans begins.position?) begins.adjacent
          rw [Controller.committed_held] at committed
          simpa [handed] using committed
      | breakDown named begun answered =>
          rename_i batch message
          obtain ⟨set, begins⟩ := (Controller.begin_eq_ok begun).2.2
          refine ⟨entries ++ [(middle.taken batch).entry engine (.switchCores batch)],
            by simp [ledgerEq, taken], ?_⟩
          have kept : ((middle.taken batch).entry engine (.switchCores batch)).handedOver? =
              none :=
            handedOver?_entry_of_error answered
          have aborted := (moves.held begun).aborted (Controller.flight?_held begins.found)
          rw [Controller.aborted_held] at aborted
          simpa [kept] using aborted

/-- A run of steps does not end because the slots of a cluster are apart from each other. -/
theorem Raises.ne_mixedFidelity {bench : Bench σ} (follows : fresh.Follows bench.controller)
    (staffed : ∀ set ∈ fresh.sets, set.slots ≠ []) {halt : Halt} (raised : bench.Raises halt)
    (cluster : Nat) : halt ≠ .failed (.switch cluster .mixedFidelity) := by
  have together : ∀ {number : Nat} {set : SlotSet},
      bench.controller.sets[number]? = some set → set.commonActive? ≠ none := by
    intro number set found apart
    obtain ⟨position, -, common⟩ := follows.exists_common staffed found
    rw [apart] at common
    cases common
  rintro rfl
  cases raised with
  | refused refused =>
      obtain ⟨set, found, -, apart⟩ := Controller.begin_eq_mixedFidelity refused
      exact together found apart
  | missing missing =>
      have impossible := (Controller.set_eq_error_iff.mp missing).2
      cases impossible
  | mixed found apart => exact together (Controller.set_eq_ok_iff.mp found) apart
  | offFirst off =>
      obtain ⟨_, _, _, _, impossible⟩ := Controller.ensureCheckpointable_eq_error off
      cases impossible

end Bench

/-- The batches whose commits an event reports. -/
def Event.commits (event : Event) (registry : Registry) : List Batch :=
  match event.request, event.reply with
  | .complete .commit serial, .ok _ => (registry.begun[serial]?.map (·.2)).toList
  | .errand .., _ => event.ledger.filterMap LedgerEntry.handedOver?
  | _, _ => []

namespace Registry

variable {registry next start : Registry} {event : Event} {events : List Event}
variable {caller number : Nat} {controller current fresh : Controller}

/-- An event leaves every controller alone but the one that is asked. -/
theorem Serves.getElem?_of_ne (serves : registry.Serves caller controller event next)
    (apart : caller ≠ number) : next.controllers[number]? = registry.controllers[number]? := by
  cases serves with
  | begun | completed | errand => exact List.getElem?_set_ne apart
  | refused | stale => rfl

theorem Serves.moves (serves : registry.Serves caller controller event next)
    (consistent : registry.Consistent) (found : registry.controllers[caller]? = some controller) :
    ∃ successor, next.controllers[caller]? = some successor ∧
      controller.Moves (event.commits registry) successor := by
  have inside := (List.getElem?_eq_some_iff.mp found).1
  cases serves with
  | begun begun =>
      obtain ⟨rfl, -⟩ := Controller.begin_eq_ok begun
      exact ⟨_, List.getElem?_set_self inside, Controller.Moves.refl.held begun⟩
  | refused refused => exact ⟨controller, found, .refl⟩
  | completed listed holds =>
      rename_i way serial owner batch
      refine ⟨_, List.getElem?_set_self inside, ?_⟩
      obtain ⟨-, fits⟩ := consistent.fits_of_holds found listed holds
      cases way with
      | commit =>
          have moves := Controller.Moves.refl.committed holds fits.source_eq fits.adjacent
          simpa [Event.commits, listed, Controller.completed] using moves
      | abort => exact Controller.Moves.refl.aborted holds
  | stale listed free =>
      rename_i way serial owner batch
      refine ⟨controller, found, ?_⟩
      cases way <;> exact .refl
  | errand ended =>
      rename_i bench
      refine ⟨bench.controller, List.getElem?_set_self inside, ?_⟩
      obtain ⟨entries, ledgerEq, moves⟩ := (Errand.stepwise _ _ ended).1.moves
      obtain rfl : bench.ledger = entries := ledgerEq
      exact moves

theorem Serves.follows (serves : registry.Serves caller controller event next)
    (consistent : registry.Consistent) (found : registry.controllers[caller]? = some controller)
    (follows : fresh.Follows controller) :
    ∃ successor, next.controllers[caller]? = some successor ∧ fresh.Follows successor := by
  have inside := (List.getElem?_eq_some_iff.mp found).1
  cases serves with
  | begun begun => exact ⟨_, List.getElem?_set_self inside, follows.held _⟩
  | refused refused => exact ⟨controller, found, follows⟩
  | completed listed holds =>
      rename_i way serial owner batch
      refine ⟨_, List.getElem?_set_self inside, ?_⟩
      obtain ⟨-, fits⟩ := consistent.fits_of_holds found listed holds
      cases way with
      | commit => exact follows.committed (follows.sequence_eq ▸ fits.target_lt)
      | abort => exact follows.aborted batch
  | stale listed free => exact ⟨controller, found, follows⟩
  | errand ended =>
      rename_i bench
      refine ⟨bench.controller, List.getElem?_set_self inside, ?_⟩
      exact (Errand.stepwise _ _ ended).1.follows follows

theorem Serves.reply_ne_mixedFidelity (serves : registry.Serves caller controller event next)
    (follows : fresh.Follows controller) (staffed : ∀ set ∈ fresh.sets, set.slots ≠ [])
    (cluster : Nat) : event.reply ≠ .error (.failed (.switch cluster .mixedFidelity)) := by
  intro replied
  cases serves with
  | begun | completed => cases replied
  | refused refused =>
      obtain rfl := Halt.failed.inj (Except.error.inj replied)
      have raised : (registry.bench controller ()).Raises _ := .refused refused
      exact raised.ne_mixedFidelity follows staffed cluster rfl
  | stale listed free =>
      have impossible := Error.switch.inj (Halt.failed.inj (Except.error.inj replied))
      cases impossible.2
  | errand ended =>
      obtain rfl := replied
      obtain ⟨steps, raised⟩ := Errand.stepwise _ _ ended
      exact (raised _ rfl).ne_mixedFidelity (steps.follows follows) staffed cluster rfl

/-- A controller that is new at the start follows itself ever after. -/
theorem Reaches.follows (opened : start.Opened) (first : start.controllers[number]? = some fresh)
    (self : fresh.Follows fresh) (reached : start.Reaches events registry) :
    ∃ current, registry.controllers[number]? = some current ∧ fresh.Follows current := by
  induction reached with
  | start => exact ⟨fresh, first, self⟩
  | next earlier served ih =>
      obtain ⟨current, found, follows⟩ := ih
      obtain ⟨-, -, controller, asked, serves⟩ := serves_of_serve served
      rename_i caller request event
      by_cases same : caller = number
      · subst same
        obtain rfl := Option.some.inj (asked.symm.trans found)
        exact serves.follows (earlier.consistent opened) asked follows
      · exact ⟨current, (serves.getElem?_of_ne same).trans found, follows⟩

/-- The controller that was made for a machine goes on following it. -/
theorem Reaches.follows_of_found (opened : start.Opened)
    (first : start.controllers[number]? = some fresh) {machine : Topology}
    {sequence : FidelitySequence} {switching : SwitchOptions}
    (built : Controller.new machine sequence switching = .ok fresh)
    (reached : start.Reaches events registry) {controller : Controller}
    (found : registry.controllers[number]? = some controller) : fresh.Follows controller := by
  obtain ⟨current, there, follows⟩ := reached.follows opened first (Controller.follows_new built)
  rwa [← Option.some.inj (there.symm.trans found)]

end Registry

namespace Controller

/-- The slots of every cluster are on one position of the sequence, and have the
instances of the controller as it was made. -/
structure InStep (fresh controller : Controller) : Prop where
  sequence_eq : controller.sequence = fresh.sequence
  together : ∀ set ∈ controller.sets, ∃ position < controller.sequence.length,
    ∀ slot ∈ set.slots, slot.active = position
  instances_eq : controller.sets.map (fun set => set.slots.map Slot.instances) =
    fresh.sets.map fun set => set.slots.map Slot.instances
  models : ∀ set ∈ controller.sets, ∀ slot ∈ set.slots,
    slot.instances.map (·.model) = controller.sequence.models
  fidelity : ∀ cluster < fresh.sets.length, (controller.activeFidelity? cluster).isSome

variable {topology : Topology} {sequence : FidelitySequence} {options : SwitchOptions}
variable {fresh controller : Controller}

theorem Follows.inStep (follows : fresh.Follows controller)
    (built : Controller.new topology sequence options = .ok fresh)
    (staffed : ∀ cluster ∈ topology.clusters, cluster.cores ≠ []) : fresh.InStep controller where
  sequence_eq := follows.sequence_eq
  together := by
    intro set member
    obtain ⟨cluster, found⟩ := List.getElem?_of_mem member
    obtain ⟨origin, -, position, inside, state, rfl⟩ := follows.exists_placed found
    refine ⟨position, follows.sequence_eq ▸ inside, ?_⟩
    simp
  instances_eq := follows.instances_eq
  models := by
    intro set member slot inside
    obtain ⟨cluster, found⟩ := List.getElem?_of_mem member
    obtain ⟨origin, first, position, -, state, rfl⟩ := follows.exists_placed found
    obtain ⟨made, original, rfl⟩ := List.mem_map.mp inside
    have models := models_of_new built (List.mem_of_getElem? first) original
    rw [follows.sequence_eq]
    exact models
  fidelity := by
    intro cluster inside
    obtain ⟨position, positionInside, state, found⟩ :=
      follows.placed (List.getElem?_eq_getElem inside)
    obtain ⟨common, commonInside, commonEq⟩ :=
      follows.exists_common (slots_ne_nil_of_new built staffed) found
    rw [activeFidelity?_eq, position?_of_found found, commonEq, Option.bind_some,
      FidelitySequence.isSome_model?_iff, follows.sequence_eq]
    exact commonInside

end Controller

namespace Registry

/-- Slots are never apart from each other.  A controller that was made new has
its instances for good, reports a fidelity for every cluster and never slots
that differ, and moves a cluster by one position for each batch of it that is
committed, and not otherwise, whatever its registry is asked for. -/
theorem Reaches.slots_move_together {start registry : Registry} {events : List Event} {number : Nat}
    {topology : Topology} {sequence : FidelitySequence} {options : SwitchOptions}
    {fresh : Controller} (opened : start.Opened)
    (first : start.controllers[number]? = some fresh)
    (built : Controller.new topology sequence options = .ok fresh)
    (staffed : ∀ cluster ∈ topology.clusters, cluster.cores ≠ [])
    (reached : start.Reaches events registry) :
    ∃ current, registry.controllers[number]? = some current ∧ fresh.InStep current ∧
      ∀ caller request event next, registry.serve caller request = some (event, next) →
        ∃ successor, next.controllers[number]? = some successor ∧
          (caller ≠ number → successor = current) ∧
          (caller = number → current.Moves (event.commits registry) successor ∧
            ∀ cluster, event.reply ≠ .error (.failed (.switch cluster .mixedFidelity))) := by
  have self := Controller.follows_new built
  have slots := Controller.slots_ne_nil_of_new built staffed
  obtain ⟨current, found, follows⟩ := reached.follows opened first self
  refine ⟨current, found, follows.inStep built staffed, ?_⟩
  intro caller request event next served
  obtain ⟨-, -, controller, asked, serves⟩ := serves_of_serve served
  by_cases same : caller = number
  · subst same
    obtain rfl := Option.some.inj (asked.symm.trans found)
    obtain ⟨successor, foundNext, moves⟩ := serves.moves (reached.consistent opened) asked
    exact ⟨successor, foundNext, fun apart => absurd rfl apart,
      fun _ => ⟨moves, serves.reply_ne_mixedFidelity follows slots⟩⟩
  · exact ⟨current, (serves.getElem?_of_ne same).trans found, fun _ => rfl,
      fun equal => absurd equal same⟩

/-- Once one of two equal controllers has begun and committed a batch. -/
theorem slots_move_together_dual :
    ∃ events registry, duals.Reaches events registry ∧
      ∃ current, registry.controllers[0]? = some current ∧ Controller.dual.InStep current ∧
        current.position? 0 = some 1 := by
  have begun : duals.serve 0 (.begin 0 [(0, .timing), (1, .timing)]) = some
      (⟨0, .begin 0 [(0, .timing), (1, .timing)], .ok (), []⟩, duals.add 0 .dual .dual) :=
    rfl
  have committed : (duals.add 0 .dual .dual).serve 0 (.complete .commit 0) = some
      (⟨0, .complete .commit 0, .ok (), []⟩,
        (duals.add 0 .dual .dual).replace 0 ((Controller.dual.held .dual).committed .dual)) :=
    rfl
  have reached := (Reaches.start.next begun).next committed
  have first : duals.controllers[0]? = some .dual := rfl
  refine ⟨_, _, reached, ?_⟩
  obtain ⟨current, found, inStep, -⟩ :=
    reached.slots_move_together opened_duals first Controller.new_dual (by decide)
  obtain rfl := Option.some.inj found
  exact ⟨_, rfl, inStep, by decide⟩

end Registry

end Mainboard
