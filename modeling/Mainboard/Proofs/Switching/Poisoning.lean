import Mainboard.Proofs.Switching.Admission
import Mainboard.Proofs.Switching.FirstFidelity

/-!
# Switched as a whole, or poisoned

A switch is refused before anything is done, or the engine hands over all slots
of the cluster, or it fails and the cluster is poisoned where it stands.  Nothing
that is asked for afterwards mends a poisoned cluster: its batches are refused,
those from before are stale, and its cores are never handed over again.
-/

namespace Mainboard

/-- Why every batch of a cluster in some state is refused. -/
def SetState.fault? : SetState → Option SwitchFault
  | .idle => none
  | .inFlight _ => some .switchInFlight
  | .poisoned => some .clusterPoisoned

theorem SetState.fault?_eq_none_iff {state : SetState} : state.fault? = none ↔ state = .idle := by
  cases state <;> simp [fault?]

namespace Controller

variable {controller : Controller} {cluster token : Nat} {set : SlotSet}
variable {requests : List (Nat × CoreModel)}

theorem begin_of_fault {fault : SwitchFault} (found : controller.sets[cluster]? = some set)
    (closed : set.state.fault? = some fault) :
    controller.begin token cluster requests = .error (.switch cluster fault) := by
  have planned : controller.plan set requests = .error fault := by
    unfold plan
    cases state : set.state with
    | idle => simp [SetState.fault?, state] at closed
    | inFlight | poisoned =>
        simp only [SetState.fault?, state, Option.some.injEq] at closed
        subst closed
        rfl
  rw [begin_of_found found, planned]
  rfl

/-- A batch that begins cannot be stale. -/
theorem Follows.begin_ne_staleBatch {fresh : Controller} (follows : fresh.Follows controller)
    (named : Nat) :
    controller.begin token cluster requests ≠ .error (.switch named .staleBatch) := by
  intro refused
  cases found : controller.sets[cluster]? with
  | none =>
      rw [begin_of_missing found] at refused
      cases refused
  | some set =>
      have violated := (follows.obeys_begin found token requests).eq_error_iff.mp refused
      obtain ⟨condition, listed, -, same⟩ := violated.exists_violated
      simp only [admission, targetAdmission, List.mem_append, List.mem_cons, List.mem_map,
        List.mem_flatMap, List.not_mem_nil, or_false] at listed
      rcases listed with (rfl | rfl) | ⟨_, -, rfl⟩ | rfl | ⟨_, -, rfl | rfl | rfl⟩ <;> cases same

/-- A slot on the position of a model has an instance of it active. -/
theorem Follows.model_activeInstance {machine : Topology} {sequence : FidelitySequence}
    {switching : SwitchOptions} {fresh : Controller} (follows : fresh.Follows controller)
    (built : Controller.new machine sequence switching = .ok fresh)
    (found : controller.sets[cluster]? = some set) {slot : Slot} (inside : slot ∈ set.slots)
    {target : CoreModel} (active : controller.sequence.position? target = some slot.active) :
    slot.activeInstance.model = target := by
  have model := follows.model?_active built (List.mem_of_getElem? found) inside
  rw [FidelitySequence.model?_of_position? active] at model
  exact (Option.some.inj model).symm

/-- A cluster is poisoned, and this is its set. -/
structure Poisoned (controller : Controller) (cluster : Nat) (set : SlotSet) : Prop where
  found : controller.sets[cluster]? = some set
  poisoned : set.isPoisoned

namespace Poisoned

theorem state_eq (poisoned : controller.Poisoned cluster set) : set.state = .poisoned :=
  of_decide_eq_true poisoned.poisoned

theorem begin_eq (poisoned : controller.Poisoned cluster set) :
    controller.begin token cluster requests = .error (.switch cluster .clusterPoisoned) := by
  refine begin_of_fault poisoned.found ?_
  rw [poisoned.state_eq]
  rfl

theorem flight?_eq (poisoned : controller.Poisoned cluster set) :
    controller.flight? cluster = none := by
  simp [flight?_of_found poisoned.found, SlotSet.flight?, poisoned.state_eq]

/-- No batch of a poisoned cluster begins. -/
theorem ne_of_begins (poisoned : controller.Poisoned cluster set) {other : SlotSet} {batch : Batch}
    (begins : controller.Begins token other batch) : batch.cluster ≠ cluster := by
  rintro rfl
  obtain rfl := Option.some.inj (begins.found.symm.trans poisoned.found)
  cases begins.idle.symm.trans poisoned.state_eq

theorem congr {after : Controller} (poisoned : controller.Poisoned cluster set)
    (same : after.sets[cluster]? = controller.sets[cluster]?) : after.Poisoned cluster set :=
  ⟨same.trans poisoned.found, poisoned.poisoned⟩

end Poisoned

end Controller

namespace Bench

variable {σ : Type} {engine : Engine σ} {calls : Call → Prop} {before after : Bench σ}
variable {cluster : Nat} {set : SlotSet} {requests : List (Nat × CoreModel)}

/-- A switch is refused for the reason that its batch is, and nothing is done. -/
structure Refuses (before : Bench σ) (cluster : Nat) (requests : List (Nat × CoreModel))
    (result : Except Halt Unit) (after : Bench σ) : Prop where
  refused : ∃ error, before.controller.begin before.nextToken cluster requests = .error error ∧
    result = .error (.failed error)
  after_eq : after = before

/-- The engine hands a batch over.  All slots of the cluster are on the target, and it is idle. -/
structure Switches (engine : Engine σ) (before : Bench σ) (cluster : Nat)
    (requests : List (Nat × CoreModel)) (result : Except Halt Unit) (after : Bench σ) : Prop where
  answered : ∃ batch, before.controller.begin before.nextToken cluster requests =
      .ok (batch, before.controller.held batch) ∧
    (engine.answer (.switchCores batch) before.engine).1 = .ok () ∧ result = .ok ()
  arrived : ∃ set source goal target,
    before.controller.MayBegin cluster requests set source goal target ∧
    after.controller.sets[cluster]? = some (set.placed goal .idle) ∧
    ∀ slot ∈ (set.placed goal .idle).slots,
      slot.active = goal ∧ slot.activeInstance.model = target

/-- The engine fails to hand a batch over.  The cluster stays where it is, and is poisoned. -/
structure BreaksDown (engine : Engine σ) (before : Bench σ) (cluster : Nat)
    (requests : List (Nat × CoreModel)) (result : Except Halt Unit) (after : Bench σ) : Prop where
  failed : ∃ batch message, before.controller.begin before.nextToken cluster requests =
      .ok (batch, before.controller.held batch) ∧
    (engine.answer (.switchCores batch) before.engine).1 = .error message ∧
    result = .error (.failed (.engine message))
  poisoned : ∃ set, before.controller.sets[cluster]? = some set ∧
    after.controller.sets[cluster]? = some { set with state := .poisoned }

/-- A switch ends in one of three ways and in no two of them. -/
def EndsOneWay (engine : Engine σ) (before : Bench σ) (cluster : Nat)
    (requests : List (Nat × CoreModel)) (result : Except Halt Unit) (after : Bench σ) : Prop :=
  (before.Refuses cluster requests result after ∧
      ¬ Switches engine before cluster requests result after ∧
      ¬ BreaksDown engine before cluster requests result after) ∨
    (¬ before.Refuses cluster requests result after ∧
      Switches engine before cluster requests result after ∧
      ¬ BreaksDown engine before cluster requests result after) ∨
    (¬ before.Refuses cluster requests result after ∧
      ¬ Switches engine before cluster requests result after ∧
      BreaksDown engine before cluster requests result after)

section Ways

variable {result : Except Halt Unit}

theorem Refuses.not_switches (refuses : before.Refuses cluster requests result after) :
    ¬ Switches engine before cluster requests result after := by
  intro switches
  obtain ⟨error, -, failed⟩ := refuses.refused
  obtain ⟨batch, -, -, done⟩ := switches.answered
  cases failed.symm.trans done

theorem Refuses.not_breaksDown (refuses : before.Refuses cluster requests result after) :
    ¬ BreaksDown engine before cluster requests result after := by
  intro breaks
  obtain ⟨error, refused, -⟩ := refuses.refused
  obtain ⟨batch, message, begun, -⟩ := breaks.failed
  cases refused.symm.trans begun

theorem Switches.not_breaksDown (switches : Switches engine before cluster requests result after) :
    ¬ BreaksDown engine before cluster requests result after := by
  intro breaks
  obtain ⟨batch, -, -, done⟩ := switches.answered
  obtain ⟨other, message, -, -, failed⟩ := breaks.failed
  cases done.symm.trans failed

theorem endsOneWay_of_or
    (ends : before.Refuses cluster requests result after ∨
      Switches engine before cluster requests result after ∨
      BreaksDown engine before cluster requests result after) :
    EndsOneWay engine before cluster requests result after := by
  rcases ends with refuses | switches | breaks
  · exact .inl ⟨refuses, refuses.not_switches, refuses.not_breaksDown⟩
  · exact .inr (.inl ⟨fun refuses => refuses.not_switches switches, switches,
      switches.not_breaksDown⟩)
  · exact .inr (.inr ⟨fun refuses => refuses.not_breaksDown breaks,
      fun switches => switches.not_breaksDown breaks, breaks⟩)

end Ways

/-- A step leaves a poisoned cluster as it is, and the call that it makes hands over others. -/
theorem Step.keeps_poisoned (step : Step engine calls before after)
    (poisoned : before.controller.Poisoned cluster set) :
    after.controller.Poisoned cluster set ∧
      ∃ entry, after.ledger = before.ledger ++ [entry] ∧
        entry.controller.Poisoned cluster set ∧
        ∀ batch, entry.call = .switchCores batch → batch.cluster ≠ cluster := by
  cases step with
  | call call named other =>
      exact ⟨poisoned, _, rfl, poisoned, fun batch same => absurd same (other batch)⟩
  | handOver named begun answered =>
      obtain ⟨other, begins⟩ := (Controller.begin_eq_ok begun).2.2
      have apart := poisoned.ne_of_begins begins
      refine ⟨poisoned.congr (Controller.getElem?_committed_of_ne apart), _, rfl,
        poisoned.congr (Controller.getElem?_held_of_ne apart), fun batch same => ?_⟩
      rwa [← Call.switchCores.inj same]
  | breakDown named begun answered =>
      obtain ⟨other, begins⟩ := (Controller.begin_eq_ok begun).2.2
      have apart := poisoned.ne_of_begins begins
      refine ⟨poisoned.congr (Controller.getElem?_aborted_of_ne apart), _, rfl,
        poisoned.congr (Controller.getElem?_held_of_ne apart), fun batch same => ?_⟩
      rwa [← Call.switchCores.inj same]

theorem Steps.keeps_poisoned (steps : Steps engine calls before after)
    (poisoned : before.controller.Poisoned cluster set) :
    after.controller.Poisoned cluster set ∧
      ∃ rest, after.ledger = before.ledger ++ rest ∧
        ∀ entry ∈ rest, entry.controller.Poisoned cluster set ∧
          ∀ batch, entry.call = .switchCores batch → batch.cluster ≠ cluster := by
  induction steps with
  | refl => exact ⟨poisoned, [], by simp, by simp⟩
  | tail _ step ih =>
      obtain ⟨still, rest, ledgerEq, spared⟩ := ih
      obtain ⟨after, last, grown, here⟩ := step.keeps_poisoned still
      refine ⟨after, rest ++ [last], by rw [grown, ledgerEq, List.append_assoc], ?_⟩
      intro entry member
      rcases List.mem_append.mp member with earlier | latest
      · exact spared entry earlier
      · rwa [List.mem_singleton.mp latest]

/-- A halt over a poisoned cluster is due to a batch that was refused for that reason, or to a walk
that had no way to begin one: the cluster has no slots, or the target is in no position. -/
theorem Raises.fault_of_poisoned {bench : Bench σ} {fault : SwitchFault}
    (raised : bench.Raises (.failed (.switch cluster fault)))
    (poisoned : bench.controller.Poisoned cluster set) :
    fault = .clusterPoisoned ∨ (fault = .mixedFidelity ∧ set.commonActive? = none) ∨
      ∃ target, fault = .notInSequence target ∧
        bench.controller.sequence.position? target = none := by
  cases raised with
  | refused refused =>
      obtain missing | ⟨other, same⟩ := Controller.begin_eq_error refused
      · cases (Controller.set_eq_error_iff.mp missing).2
      obtain ⟨rfl, rfl⟩ := Error.switch.inj same
      have closed := Except.error.inj (refused.symm.trans poisoned.begin_eq)
      exact .inl (Error.switch.inj closed).2
  | missing missing => cases (Controller.set_eq_error_iff.mp missing).2
  | mixed found mixed =>
      obtain rfl := Option.some.inj
        ((Controller.set_eq_ok_iff.mp found).symm.trans poisoned.found)
      exact .inr (.inl ⟨rfl, mixed⟩)
  | unknown unknown => exact .inr (.inr ⟨_, rfl, unknown⟩)
  | offFirst off =>
      obtain ⟨_, _, _, _, impossible⟩ := Controller.ensureCheckpointable_eq_error off
      cases impossible

end Bench

namespace Action

variable {σ : Type} {engine : Engine σ} {before after : Bench σ} {result : Except Halt Unit}

/-- A whole cluster is switched by a request for each of its slots. -/
theorem ends_switchTo_iff {cluster : Nat} {set : SlotSet} {target : CoreModel}
    (found : before.controller.sets[cluster]? = some set) :
    Ends (switchTo engine cluster target) before result after ↔
      Ends (switchSlots engine cluster
        ((List.range set.slots.length).map fun slot => (slot, target))) before result after := by
  have there := Controller.set_eq_ok_iff.mpr found
  rw [switchTo, ends_bind_iff]
  simp only [ends_slotSet_iff, there, Except.mapError_ok, reduceCtorEq, false_and, and_false,
    exists_false, false_or, Except.ok.injEq]
  constructor
  · rintro ⟨_, _, ⟨rfl, rfl⟩, switched⟩
    exact switched
  · intro switched
    exact ⟨set, before, ⟨rfl, rfl⟩, switched⟩

theorem eq_of_switchSlots_poisoned {cluster : Nat} {set : SlotSet}
    {requests : List (Nat × CoreModel)} (poisoned : before.controller.Poisoned cluster set)
    (ended : Ends (switchSlots engine cluster requests) before result after) :
    result = .error (.failed (.switch cluster .clusterPoisoned)) := by
  obtain ⟨error, refused, rfl, -⟩ | ⟨batch, begun, -⟩ := ends_switchSlots ended
  · rw [Except.error.inj (refused.symm.trans poisoned.begin_eq)]
  · cases poisoned.begin_eq.symm.trans begun

end Action

/-- Whether the answer to a request starts with a batch of a cluster. -/
def Request.begins (cluster : Nat) : Request → Prop
  | .begin other _ | .errand _ _ (.switchSlots other _) | .errand _ _ (.switchTo other _) =>
      other = cluster
  | .complete .. | .errand .. => False

/-- An event that leaves a poisoned cluster alone: its cores are not handed over, and whatever
would begin a batch of it is refused because it is poisoned.  Other faults that an event reports
of it are those of requests that begin none. -/
structure Event.LeavesPoisoned (event : Event) (sequence : FidelitySequence) (cluster : Nat)
    (set : SlotSet) : Prop where
  uncalled : ∀ entry ∈ event.ledger, entry.controller.Poisoned cluster set ∧
    ∀ batch, entry.call = .switchCores batch → batch.cluster ≠ cluster
  refused : event.request.begins cluster →
    event.reply = .error (.failed (.switch cluster .clusterPoisoned))
  fault : ∀ fault, event.reply = .error (.failed (.switch cluster fault)) →
    fault = .clusterPoisoned ∨
      (fault = .staleBatch ∧ ∃ way serial, event.request = .complete way serial) ∨
      (fault = .mixedFidelity ∧ set.slots = []) ∨
      ∃ target, fault = .notInSequence target ∧ sequence.position? target = none

namespace Registry

variable {registry next start : Registry} {event : Event} {events : List Event}
variable {caller number cluster : Nat} {controller : Controller} {set : SlotSet}

/-- Whatever a controller with a poisoned cluster answers leaves that cluster alone. -/
theorem Serves.leaves_poisoned (serves : registry.Serves caller controller event next)
    (found : registry.controllers[caller]? = some controller)
    (poisoned : controller.Poisoned cluster set)
    (together : set.commonActive? = none → set.slots = []) :
    event.LeavesPoisoned controller.sequence cluster set ∧
      ∃ successor, next.controllers[caller]? = some successor ∧
        successor.Poisoned cluster set ∧ successor.sequence = controller.sequence := by
  have inside := (List.getElem?_eq_some_iff.mp found).1
  cases serves with
  | begun begun =>
      obtain ⟨other, begins⟩ := (Controller.begin_eq_ok begun).2.2
      have apart := poisoned.ne_of_begins begins
      refine ⟨⟨by simp, fun same => ?_, by simp⟩, _, List.getElem?_set_self inside,
        poisoned.congr (Controller.getElem?_held_of_ne apart), rfl⟩
      exact absurd ((Controller.begin_eq_ok begun).1.trans same) apart
  | refused refused =>
      refine ⟨⟨by simp, fun same => ?_, fun fault replied => ?_⟩, controller, found, poisoned, rfl⟩
      · obtain rfl := same
        rw [Except.error.inj (refused.symm.trans poisoned.begin_eq)]
      · have raised : (registry.bench controller ()).Raises _ := .refused refused
        obtain same := Except.error.inj replied
        rw [same] at raised
        rcases raised.fault_of_poisoned poisoned with closed | ⟨mixed, apart⟩ | unknown
        · exact .inl closed
        · exact .inr (.inr (.inl ⟨mixed, together apart⟩))
        · exact .inr (.inr (.inr unknown))
  | completed listed holds =>
      rename_i way serial owner batch
      refine ⟨⟨by simp, fun same => same.elim, by simp⟩, _, List.getElem?_set_self inside, ?_,
        Controller.sequence_completed way⟩
      have apart : batch.cluster ≠ cluster := by
        rintro rfl
        cases holds.symm.trans poisoned.flight?_eq
      exact poisoned.congr (Controller.getElem?_completed_of_ne way apart)
  | stale listed free =>
      refine ⟨⟨by simp, fun same => same.elim, fun fault replied => ?_⟩, controller, found,
        poisoned, rfl⟩
      have same := Error.switch.inj (Halt.failed.inj (Except.error.inj replied))
      exact .inr (.inl ⟨same.2.symm, _, _, rfl⟩)
  | errand ended =>
      rename_i errand result bench
      obtain ⟨steps, raised⟩ := Errand.stepwise _ _ ended
      obtain ⟨still, rest, ledgerEq, spared⟩ := steps.keeps_poisoned poisoned
      obtain rfl : bench.ledger = rest := ledgerEq
      have sequenceEq := steps.advances.sequence_eq
      refine ⟨⟨spared, fun same => ?_, fun fault replied => ?_⟩, bench.controller,
        List.getElem?_set_self inside, still, sequenceEq⟩
      · cases errand with
        | switchSlots other requests =>
            obtain rfl := same
            exact Action.eq_of_switchSlots_poisoned poisoned ended
        | switchTo other target =>
            obtain rfl := same
            exact Action.eq_of_switchSlots_poisoned poisoned
              ((Action.ends_switchTo_iff poisoned.found).mp ended)
        | stepToward | revertAll | run => exact same.elim
      · obtain rfl := replied
        rcases (raised _ rfl).fault_of_poisoned still with
          closed | ⟨mixed, apart⟩ | ⟨target, same, unknown⟩
        · exact .inl closed
        · exact .inr (.inr (.inl ⟨mixed, together apart⟩))
        · rw [sequenceEq] at unknown
          exact .inr (.inr (.inr ⟨target, same, unknown⟩))

/-- A poisoned cluster stays as it is, whatever its controller is asked for. -/
theorem Reaches.leaves_poisoned (reached : registry.Reaches events next)
    (found : registry.controllers[number]? = some controller)
    (poisoned : controller.Poisoned cluster set)
    (together : set.commonActive? = none → set.slots = []) :
    ∃ current, next.controllers[number]? = some current ∧ current.Poisoned cluster set ∧
      current.sequence = controller.sequence ∧
      ∀ event ∈ events, event.caller = number →
        event.LeavesPoisoned controller.sequence cluster set := by
  induction reached with
  | start => exact ⟨controller, found, poisoned, rfl, by simp⟩
  | next earlier served ih =>
      rename_i caller request event
      obtain ⟨current, there, still, sequenceEq, left⟩ := ih
      obtain ⟨named, -, other, asked, serves⟩ := serves_of_serve served
      by_cases same : caller = number
      · subst same
        obtain rfl := Option.some.inj (asked.symm.trans there)
        obtain ⟨leaves, successor, thereNext, stillNext, kept⟩ :=
          serves.leaves_poisoned asked still together
        rw [sequenceEq] at leaves
        refine ⟨successor, thereNext, stillNext, kept.trans sequenceEq, ?_⟩
        intro earlier member caller
        rcases List.mem_append.mp member with before | latest
        · exact left earlier before caller
        · rwa [List.mem_singleton.mp latest]
      · refine ⟨current, (serves.getElem?_of_ne same).trans there, still, sequenceEq, ?_⟩
        intro earlier member caller
        rcases List.mem_append.mp member with before | latest
        · exact left earlier before caller
        · rw [List.mem_singleton.mp latest, named] at caller
          exact absurd caller same

end Registry

namespace Bench

variable {σ : Type} {engine : Engine σ} {before after : Bench σ}
variable {machine : Topology} {sequence : FidelitySequence} {switching : SwitchOptions}
variable {fresh : Controller} {cluster : Nat} {requests : List (Nat × CoreModel)}

theorem switches_or_breaksDown_or_refuses
    (built : Controller.new machine sequence switching = .ok fresh)
    (follows : fresh.Follows before.controller) {result : Except Halt Unit}
    (ended : Action.Ends (Action.switchSlots engine cluster requests) before result after) :
    before.Refuses cluster requests result after ∨
      Switches engine before cluster requests result after ∨
      BreaksDown engine before cluster requests result after := by
  have steps : Steps engine (fun _ => True) before after :=
    (Action.stepwise_switchSlots cluster requests (fun _ _ => trivial) ended).1
  obtain ⟨error, refused, failed, same⟩ | ⟨batch, begun, rfl, completed⟩ :=
    Action.ends_switchSlots ended
  · exact .inl ⟨⟨error, refused, failed⟩, same⟩
  obtain ⟨set, begins⟩ := (Controller.begin_eq_ok begun).2.2
  obtain ⟨answered, done, rfl⟩ | ⟨message, answered, failed, rfl⟩ := completed
  · have obeys := follows.obeys_begin begins.found before.nextToken requests
    obtain ⟨source, goal, target, may⟩ := (Controller.admission_holds_iff begins.found).mp
      (obeys.exists_ok_iff.mp ⟨_, begun⟩)
    obtain ⟨made, madeEq, madeBegins⟩ := may.begin_eq before.nextToken
    obtain ⟨rfl, -⟩ := Prod.mk.inj (Except.ok.inj (madeBegins.symm.trans begun))
    have arrived : (before.controller.committed made).sets[made.cluster]? =
        some (set.placed goal .idle) := by
      rw [Controller.committed, Controller.getElem?_modifySet_self _ begins.found, madeEq]
      rfl
    refine .inr (.inl ⟨⟨made, begun, answered, done⟩, set, source, goal, target, may, arrived, ?_⟩)
    intro slot member
    have active := (SlotSet.commonActive?_eq_some_iff.mp
      (SlotSet.commonActive?_placed goal .idle
        (SlotSet.commonActive?_eq_some_iff.mp may.source_eq).1)).2 slot member
    refine ⟨active, (steps.follows follows).model_activeInstance built arrived member ?_⟩
    rw [steps.sequence_eq, active, may.goal_eq]
  · refine .inr (.inr ⟨⟨batch, message, begun, answered, failed⟩, set, begins.found, ?_⟩)
    exact Controller.getElem?_modifySet_self _ begins.found

end Bench

/-- An engine that hands cores over as often as its state says, and then fails. -/
def Engine.tiring : Engine Nat where
  answer
    | .switchCores _, left + 1 => (.ok (), left)
    | _, left => (.error "no state to hand over", left)
  tick _ := 0

namespace Registry

/-- Whatever its controller has been asked for before, a switch ends in one of three ways: it is
refused and nothing is done, all slots of the cluster are handed over, or the engine fails and the
cluster is poisoned where it is.  A batch that is begun for it is never stale, and no other cluster
is touched.  A poisoned cluster stays as it is for good, and whatever would begin a batch of it is
refused. -/
theorem Reaches.switches_all_or_nothing {start registry : Registry} {events : List Event}
    {number : Nat} {machine : Topology} {sequence : FidelitySequence} {switching : SwitchOptions}
    {fresh controller : Controller} (untouched : start.Opened)
    (first : start.controllers[number]? = some fresh)
    (built : Controller.new machine sequence switching = .ok fresh)
    (reached : start.Reaches events registry)
    (found : registry.controllers[number]? = some controller) :
    (∀ {σ : Type} (engine : Engine σ) (state : σ) (cluster : Nat)
        (requests : List (Nat × CoreModel)),
      ∃ result after, Action.Ends (Action.switchSlots engine cluster requests)
          (registry.bench controller state) result after ∧
        Bench.EndsOneWay engine (registry.bench controller state) cluster requests result after ∧
        (∀ named, result ≠ .error (.failed (.switch named .staleBatch))) ∧
        ∀ other ≠ cluster, after.controller.sets[other]? = controller.sets[other]?) ∧
    ∀ {cluster : Nat} {set : SlotSet}, controller.Poisoned cluster set →
      ∀ {later : List Event} {next : Registry}, registry.Reaches later next →
        ∃ current, next.controllers[number]? = some current ∧ current.Poisoned cluster set ∧
          ∀ event ∈ later, event.caller = number →
            event.LeavesPoisoned controller.sequence cluster set := by
  have follows := reached.follows_of_found untouched first built found
  constructor
  · intro σ engine state cluster requests
    obtain ⟨result, after, ended⟩ :=
      Action.exists_ends (Action.switchSlots engine cluster requests) (registry.bench controller state)
    have ways := Bench.switches_or_breaksDown_or_refuses built follows ended
    refine ⟨result, after, ended, Bench.endsOneWay_of_or ways, ?_, ?_⟩
    · rintro named rfl
      rcases ways with refuses | switches | breaks
      · obtain ⟨error, refused, same⟩ := refuses.refused
        obtain rfl := Halt.failed.inj (Except.error.inj same)
        exact follows.begin_ne_staleBatch named refused
      · obtain ⟨_, -, -, impossible⟩ := switches.answered
        cases impossible
      · obtain ⟨_, _, -, -, impossible⟩ := breaks.failed
        cases impossible
    · intro other apart
      have steps : Bench.Steps engine (Call.IsWithin cluster) (registry.bench controller state) after :=
        (Action.stepwise_switchSlots cluster requests Call.isWithin_switchCores ended).1
      exact steps.getElem?_sets_of_isWithin apart
  · intro cluster set poisoned later next continued
    have together : set.commonActive? = none → set.slots = [] := by
      intro apart
      by_contra staffed
      obtain ⟨position, common⟩ := follows.exists_common_of_slots poisoned.found staffed
      cases apart.symm.trans common
    obtain ⟨current, there, still, -, left⟩ :=
      continued.leaves_poisoned found poisoned together
    exact ⟨current, there, still, left⟩

/-- A controller whose only cluster was poisoned by an engine that fails is asked to begin a batch. -/
theorem switches_all_or_nothing_poisoned :
    ∃ events registry later next event set, duals.Reaches events registry ∧
      registry.Reaches later next ∧ event ∈ later ∧ event.caller = 0 ∧
      event.request.begins 0 ∧ event.LeavesPoisoned .standard 0 set := by
  obtain ⟨broken, served⟩ : ∃ event, duals.serve 0 (.errand .tiring 0 (.switchTo 0 .timing)) =
      some (event, { controllers := [Controller.dual.aborted .dual, .dual], nextToken := 2 }) :=
    ⟨_, rfl⟩
  have reached := Reaches.start.next served
  have first : duals.controllers[0]? = some .dual := rfl
  have poisoned : (Controller.dual.aborted .dual).Poisoned 0
      { Controller.freshSet .standard {} Topology.dual.clusters[0] with state := .poisoned } :=
    ⟨rfl, rfl⟩
  obtain ⟨event, next, refused, asked⟩ : ∃ event next,
      Registry.serve { controllers := [Controller.dual.aborted .dual, .dual], nextToken := 2 } 0
        (.begin 0 [(0, .timing), (1, .timing)]) = some (event, next) ∧
      event.caller = 0 ∧ event.request.begins 0 :=
    ⟨_, _, rfl, rfl, rfl⟩
  have later := Reaches.start.next refused
  obtain ⟨-, stays⟩ :=
    reached.switches_all_or_nothing opened_duals first Controller.new_dual rfl
  obtain ⟨current, -, -, left⟩ := stays poisoned later
  have member : event ∈ [] ++ [event] := by simp
  exact ⟨_, _, _, _, event, _, reached, later, member, asked.1, asked.2,
    left event member asked.1⟩

end Registry

end Mainboard
