import Mainboard.Proofs.Bench.Traces
import Mainboard.Proofs.Run.Requests
import Mainboard.Proofs.Switching.FirstFidelity
import Mainboard.Proofs.Switching.Positions

/-!
# Checkpoints are written on the first fidelity

Whatever a controller has been through, a run calls its engine for a checkpoint
only while every slot is on the first fidelity.  If the run may walk the
clusters back, it never gives up over a slot that is off it.  If it may not,
the first request that finds one ends the run at once, and the error names the
first such slot.
-/

open Mainboard.Action

namespace Mainboard

/-- A checkpoint is refused for a slot that is off the first fidelity. -/
def Halt.Refuses (halt : Halt) : Prop :=
  ∃ cluster slot active required,
    halt = .failed (.checkpointFidelity cluster slot active required)

/-- Calls for a checkpoint are made with every slot on the first position. -/
def SavesSettled (trace : List LedgerEntry) (_ : Option Halt) : Prop :=
  ∀ entry ∈ trace, ∀ directory, entry.call = .checkpoint directory →
    entry.controller.ensureCheckpointable = .ok ()

/-- A trace does not end because a checkpoint is refused. -/
def Unrefused (_ : List LedgerEntry) (halt : Option Halt) : Prop :=
  ∀ reason, halt = some reason → ¬ reason.Refuses

/-- A request that finds a slot off the first fidelity is the end of a trace,
and its refusal the halt. -/
def EndsRefused (trace : List LedgerEntry) (halt : Option Halt) : Prop :=
  ∀ front request later error, trace = front ++ request :: later → request.isRequest →
    request.controller.ensureCheckpointable = .error error →
    later = [] ∧ halt = some (.failed error)

theorem endsRefused_eq : EndsRefused = StopsAt fun entry error =>
    entry.isRequest = true ∧ entry.controller.ensureCheckpointable = .error error := by
  funext trace halt
  simp only [EndsRefused, StopsAt, and_imp]

theorem endsRefused_of_unasked {trace : List LedgerEntry} {halt : Option Halt}
    (unasked : ∀ entry ∈ trace, entry.isRequest = false) : EndsRefused trace halt := by
  rw [endsRefused_eq]
  apply stopsAt_of_none
  rintro entry member error ⟨asked, -⟩
  exact absurd asked (by simp [unasked entry member])

theorem endsRefused_singleton {entry : LedgerEntry} {halt : Option Halt}
    (refused : ∀ error, entry.controller.ensureCheckpointable = .error error →
      halt = some (.failed error)) : EndsRefused [entry] halt := by
  rw [endsRefused_eq]
  exact stopsAt_singleton fun error stopped => refused error stopped.2

theorem composes_endsRefused : Composes EndsRefused := by
  rw [endsRefused_eq]
  exact composes_stopsAt _

namespace Bench

variable {σ : Type} {engine : Engine σ} {calls : Call → Prop} {before after : Bench σ}
variable {fresh : Controller}

theorem Step.exists_entry_follows (step : Step engine calls before after)
    (follows : fresh.Follows before.controller) :
    ∃ entry, after.ledger = before.ledger ++ [entry] ∧ fresh.Follows entry.controller := by
  cases step with
  | call call named other => exact ⟨_, rfl, follows⟩
  | handOver | breakDown => exact ⟨_, rfl, follows.held _⟩

/-- At every call the controller has the instances that it was made with. -/
theorem Steps.exists_rest_follows (steps : Steps engine calls before after)
    (follows : fresh.Follows before.controller) :
    ∃ rest, after.ledger = before.ledger ++ rest ∧
      ∀ entry ∈ rest, fresh.Follows entry.controller := by
  induction steps with
  | refl => exact ⟨[], by simp, by simp⟩
  | tail earlier step ih =>
      obtain ⟨rest, ledgerEq, kept⟩ := ih
      obtain ⟨entry, grown, last⟩ := step.exists_entry_follows (Steps.follows earlier follows)
      refine ⟨rest ++ [entry], by rw [grown, ledgerEq, List.append_assoc], ?_⟩
      intro other member
      rcases List.mem_append.mp member with early | late
      · exact kept other early
      · rwa [List.mem_singleton.mp late]

end Bench

namespace Action

open Bench

variable {σ : Type} {engine : Engine σ} {before after : Bench σ}
variable {topology : Topology} {options : RunOptions} {patience : Nat}

section FirstFidelity

theorem composes_savesSettled : Composes SavesSettled :=
  composes_forall_mem _

theorem Stepwise.savesSettled {α : Type} {action : Action σ α}
    (stepwise : Stepwise engine (fun call => ∀ directory, call ≠ .checkpoint directory) action) :
    Leaves SavesSettled action :=
  stepwise.leaves fun _ _ made entry member directory same =>
    absurd same (made entry member directory)

theorem leaves_savesSettled_checkpoint : Leaves SavesSettled (checkpoint engine options) := by
  intro before result after ended
  obtain ⟨halt, -, rfl, failed⟩ | ⟨ready, readied, saves⟩ := ends_checkpoint ended
  · exact Stepwise.savesSettled (stepwise_revertAll (by simp)) failed
  obtain ⟨rest, ledgerEq, made⟩ := exists_rest_of_readies readied
  have unsaved : SavesSettled rest none :=
    fun entry member directory same => absurd same ((made entry member).2 directory)
  have settles : ∀ {call : Call}, ready.controller.ensureCheckpointable = .ok () →
      SavesSettled [ready.entry engine call] none := by
    intro call settled entry member _ _
    rwa [List.mem_singleton.mp member]
  cases saves with
  | refused off => exact ⟨rest, ledgerEq, unsaved⟩
  | failed named settled answered | written named settled answered =>
      exact ⟨_, by rw [ledger_record, ledgerEq, List.append_assoc],
        composes_savesSettled.append unsaved (settles settled)⟩

/-- A run calls for a checkpoint only while every slot is on the first position. -/
theorem leaves_savesSettled_run :
    Leaves SavesSettled (run engine topology options patience) := by
  have composes : Composes SavesSettled := composes_savesSettled
  have called : ∀ call, (∀ directory, call ≠ .checkpoint directory) →
      (∀ batch, call ≠ .switchCores batch) → Leaves SavesSettled (Action.call engine call) :=
    fun call other kept => Stepwise.savesSettled (stepwise_call other kept)
  have warmed : Leaves SavesSettled (warmUp engine options patience) :=
    Stepwise.savesSettled (stepwise_warmUp (by simp) (by simp) (by simp) options patience)
  have entered : ∀ fidelity, Leaves SavesSettled (enter engine fidelity) :=
    fun fidelity => Stepwise.savesSettled (stepwise_enter fidelity (by simp))
  have impatient : SavesSettled [] (some .outOfPatience) := by simp [SavesSettled]
  have simulated : ∀ phase, Leaves SavesSettled (simulatePhase engine options phase patience) :=
    fun phase => leaves_simulatePhase composes impatient (called _ (by simp) (by simp))
      leaves_savesSettled_checkpoint (entered _) patience
  exact leaves_run composes (called _ (by simp) (by simp)) warmed entered simulated
    (called _ (by simp) (by simp))

end FirstFidelity

section Revert

/-- After the way back no slot is off the first fidelity. -/
theorem ensureCheckpointable_of_revertAll
    (ended : Ends (revertAll engine) before (.ok ()) after) :
    after.controller.ensureCheckpointable = .ok () := by
  rw [revertAll, ends_get_bind_iff] at ended
  have steps : Steps engine (fun _ => True) before after :=
    (stepwise_enter _ (fun _ => trivial) ended).1
  rw [Controller.ensureCheckpointable_eq_ok_iff]
  intro set member slot inside
  have model := ((isOn_of_enter ended).slot set member slot inside).1
  rw [← steps.sequence_eq] at model
  exact FidelitySequence.eq_zero_of_model? model

theorem allowsSwitches_unrefused : AllowsSwitches Unrefused where
  toComposes := composes_forall_halt _
  answered := by simp [Unrefused]
  failed := by simp [Unrefused, Halt.Refuses]
  refused := by simp [Unrefused, Halt.Refuses]
  impatient := by simp [Unrefused, Halt.Refuses]

theorem leaves_unrefused_checkpoint (reverts : options.revertBeforeCheckpoint = true) :
    Leaves Unrefused (checkpoint engine options) := by
  intro before result after ended
  obtain ⟨halt, -, rfl, failed⟩ | ⟨ready, readied, saves⟩ := ends_checkpoint ended
  · exact leaves_revertAll allowsSwitches_unrefused failed
  rw [Readies, if_pos reverts] at readied
  have settled := ensureCheckpointable_of_revertAll readied
  obtain ⟨rest, ledgerEq, -⟩ := leaves_revertAll allowsSwitches_unrefused readied
  cases saves with
  | refused off => cases settled.symm.trans off
  | failed named settled answered | written named settled answered =>
      exact ⟨_, by rw [ledger_record, ledgerEq, List.append_assoc],
        by simp [halt?, Unrefused, Halt.Refuses]⟩

/-- A run that may walk the clusters back does not give up over a slot off the first fidelity. -/
theorem leaves_unrefused_run (reverts : options.revertBeforeCheckpoint = true) :
    Leaves Unrefused (run engine topology options patience) := by
  have allows : AllowsSwitches Unrefused := allowsSwitches_unrefused
  have called : ∀ call, Leaves Unrefused (Action.call engine call) := allows.leaves_call
  have warmed : Leaves Unrefused (warmUp engine options patience) :=
    leaves_warmUp allows.toComposes allows.impatient (called _) (called _) (called _) patience
  have simulated : ∀ phase, Leaves Unrefused (simulatePhase engine options phase patience) :=
    fun phase => leaves_simulatePhase allows.toComposes allows.impatient (called _)
      (leaves_unrefused_checkpoint reverts) (leaves_enter allows _) patience
  exact leaves_run allows.toComposes (called _) warmed (leaves_enter allows) simulated (called _)

end Revert

section Stay

variable (stays : options.revertBeforeCheckpoint = false)

/-- Without a stretch there is no request. -/
theorem Stepwise.endsRefused {α : Type} {action : Action σ α}
    (stepwise : Stepwise engine (fun call => ∀ limit, call ≠ .simulate limit) action) :
    Leaves EndsRefused action := by
  refine stepwise.leaves fun trace halt made => endsRefused_of_unasked fun entry member => ?_
  obtain ⟨call, answer, tick, controller⟩ := entry
  cases call with
  | simulate limit => exact absurd rfl (made _ member limit)
  | instantiate | checkpoint | switchCores | dumpStatistics | resetStatistics => rfl

include stays

/-- A checkpoint that is tried where the clusters are is refused for a slot off
the first fidelity, without a call. -/
theorem ends_checkpoint_of_off {error : Error} {result : Except Halt String}
    (off : before.controller.ensureCheckpointable = .error error)
    (ended : Ends (checkpoint engine options) before result after) :
    result = .error (.failed error) ∧ after = before := by
  obtain ⟨halt, reverts, -⟩ | ⟨ready, readied, saves⟩ := ends_checkpoint ended
  · cases stays.symm.trans reverts
  rw [Readies, stays] at readied
  obtain rfl : ready = before := readied
  cases saves with
  | refused other =>
      obtain rfl := Except.error.inj (off.symm.trans other)
      exact ⟨rfl, rfl⟩
  | failed named settled | written named settled => cases off.symm.trans settled

theorem leaves_endsRefused_simulatePhase (phase : Phase) (patience : Nat) :
    Leaves EndsRefused (simulatePhase engine options phase patience) := by
  induction patience with
  | zero => exact .throw (endsRefused_of_unasked (by simp))
  | succ patience ih =>
      intro before result after ended
      let request := before.entry engine (.simulate phase.ticks)
      let next := before.record engine (.simulate phase.ticks)
      obtain ⟨unasked, rfl, -⟩ | ⟨asked, onward⟩ := ends_simulatePhase_succ ended
      · exact ⟨[request], rfl, endsRefused_of_unasked (by simpa using unasked)⟩
      -- The request is the end of the trace if a slot is off the first fidelity.  Otherwise
      -- the phase is resumed, and its own recursion is the first to simulate again.
      cases check : next.controller.ensureCheckpointable with
      | error error =>
          obtain ⟨halt, rfl, refused⟩ | ⟨_, _, impossible, -⟩ := ends_bind_iff.mp onward
          · obtain ⟨same, rfl⟩ := ends_checkpoint_of_off stays check refused
            obtain rfl := Except.error.inj same
            exact ⟨[request], rfl, endsRefused_singleton fun reason off =>
              congrArg (fun error => some (Halt.failed error))
                (Except.error.inj (check.symm.trans off))⟩
          · cases (ends_checkpoint_of_off stays check impossible).1
      | ok _ =>
          have resumed : Leaves EndsRefused (resume engine options phase patience) :=
            .bind composes_endsRefused
              (Stepwise.endsRefused (stepwise_checkpoint options (by simp) (by simp)))
              fun _ => .bind composes_endsRefused
                (Stepwise.endsRefused (stepwise_enter phase.fidelity (by simp)))
                fun _ => .bind composes_endsRefused ih fun _ => .pure composes_endsRefused _
          obtain ⟨rest, ledgerEq, refused⟩ := resumed onward
          have settled : EndsRefused [request] none :=
            endsRefused_singleton fun reason off => by cases check.symm.trans off
          exact ⟨request :: rest, by simp [ledgerEq, request],
            composes_endsRefused.append settled refused⟩

/-- In its phases a run that may not walk the clusters back ends with the first
request that finds a slot off the first fidelity. -/
theorem leaves_endsRefused_closing (opened : Nat × Option ExitEvent) :
    Leaves EndsRefused (closing engine options patience opened) :=
  .bind composes_endsRefused (leaves_afterWarmUp composes_endsRefused
      (fun fidelity => Stepwise.endsRefused (stepwise_enter fidelity (by simp)))
      (fun phase => leaves_endsRefused_simulatePhase stays phase patience) _)
    fun _ => .bind composes_endsRefused
      (Stepwise.endsRefused (stepwise_call (by simp) (by simp)))
      fun _ => .pure composes_endsRefused _

end Stay

end Action

namespace Registry

/-- A run calls for a checkpoint only with every slot of every cluster on the
first fidelity, whatever its controller has been asked for before.  If it may
walk the clusters back, then it does not end with a checkpoint that is refused.
If it may not, then a request in its phases that finds a slot off the first
fidelity is its last call, and it ends with the refusal, which names the first
such slot. -/
theorem Reaches.checkpoints_on_first {σ : Type} {start registry : Registry} {events : List Event}
    {number : Nat} {machine : Topology} {sequence : FidelitySequence} {switching : SwitchOptions}
    {fresh controller : Controller} (untouched : start.Opened)
    (first : start.controllers[number]? = some fresh)
    (built : Controller.new machine sequence switching = .ok fresh)
    (reached : start.Reaches events registry)
    (found : registry.controllers[number]? = some controller) {engine : Engine σ} {state : σ}
    {topology : Topology} {options : RunOptions} {patience : Nat} {result : Except Halt Outcome}
    {after : Bench σ}
    (ended : Ends (run engine topology options patience) (registry.bench controller state)
      result after) :
    (∀ entry ∈ after.ledger, ∀ directory, entry.call = .checkpoint directory →
        entry.controller.IsOnFirst) ∧
      (options.revertBeforeCheckpoint = true → ∀ cluster slot active required,
        result ≠ .error (.failed (.checkpointFidelity cluster slot active required))) ∧
      ∃ opened warmed phases,
        Ends (opening engine topology options patience) (registry.bench controller state)
          opened warmed ∧
        after.ledger = warmed.ledger ++ phases ∧
        (options.revertBeforeCheckpoint = false → ∀ front request later,
          phases = front ++ request :: later → request.isRequest →
          ¬ request.controller.IsOnFirst →
          later = [] ∧ ∃ set index slot, request.controller.FirstOff set index slot ∧
            result = .error (.failed (.checkpointFidelity set.cluster index
              slot.activeInstance.model request.controller.sequence.first))) := by
  obtain ⟨current, same, follows⟩ :=
    reached.follows untouched first (Controller.follows_new built)
  obtain rfl := Option.some.inj (same.symm.trans found)
  obtain ⟨made, madeEq, kept⟩ := Bench.Steps.exists_rest_follows
    (stepwise_run (fun _ => trivial) topology options patience ended).1 follows
  obtain rfl : after.ledger = made := madeEq
  refine ⟨?_, ?_, ?_⟩
  · obtain ⟨trace, traceEq, settled⟩ := leaves_savesSettled_run ended
    obtain rfl : after.ledger = trace := traceEq
    intro entry member directory saves
    exact ((kept entry member).isOnFirst_iff built).mpr (settled entry member directory saves)
  · rintro reverts cluster slot active required rfl
    obtain ⟨trace, -, unrefused⟩ := leaves_unrefused_run reverts ended
    exact unrefused _ rfl ⟨cluster, slot, active, required, rfl⟩
  · obtain ⟨halt, rfl, failed⟩ | ⟨opened, warmed, opens, closes⟩ := ends_run ended
    · exact ⟨.error halt, after, [], failed, by simp, by simp⟩
    obtain ⟨phases, ledgerEq, -⟩ :=
      (stepwise_closing (fun _ => trivial) options patience opened closes).1.exists_rest
    refine ⟨.ok opened, warmed, phases, opens, ledgerEq, ?_⟩
    intro stays front request later split asked off
    -- A request in the warm-up is not handled, so that refusals are looked for after it.
    obtain ⟨trace, traceEq, refused⟩ := leaves_endsRefused_closing stays opened closes
    obtain rfl := List.append_cancel_left (ledgerEq.symm.trans traceEq)
    have requestFollows := kept request (by simp [ledgerEq, split])
    cases check : request.controller.ensureCheckpointable with
    | ok _ => exact absurd ((requestFollows.isOnFirst_iff built).mpr check) off
    | error error =>
        obtain ⟨last, halted⟩ := refused front request later error split asked check
        obtain ⟨set, index, slot, firstOff, rfl⟩ := requestFollows.firstOff_of_refused built check
        exact ⟨last, set, index, slot, firstOff, halt?_eq_some_iff.mp halted⟩

/-- A phase on the second fidelity, without a way back. -/
def stuck : RunOptions where
  phases := [⟨.timing, some 10⟩]
  revertBeforeCheckpoint := false

/-- On the second fidelity a request is refused for the first slot. -/
theorem checkpoints_on_first_duals :
    ∃ after front request set index slot,
      Ends (run (Script.engine {}) .dual stuck 2)
        (duals.bench .dual (.ofScript { events := [.checkpointRequest] }))
        (.error (.failed (.checkpointFidelity set.cluster index slot.activeInstance.model
          request.controller.sequence.first))) after ∧
      after.ledger = front ++ [request] ∧ request.isRequest ∧
      request.controller.FirstOff set index slot := by
  have opens : ∃ warmed, Ends (opening (Script.engine {}) .dual stuck 2)
      (duals.bench .dual (.ofScript { events := [.checkpointRequest] })) (.ok (0, none)) warmed ∧
      warmed.ledger.length = 1 :=
    ⟨_, rfl, rfl⟩
  have ends : ∃ after entered switched request,
      Ends (run (Script.engine {}) .dual stuck 2)
        (duals.bench .dual (.ofScript { events := [.checkpointRequest] }))
        (.error (.failed (.checkpointFidelity 0 0 .timing .atomic))) after ∧
      after.ledger = [entered] ++ ([switched] ++ request :: []) ∧ request.isRequest ∧
      request.controller.ensureCheckpointable = .error (.checkpointFidelity 0 0 .timing .atomic) :=
    ⟨_, _, _, _, rfl, rfl, rfl, rfl⟩
  obtain ⟨warmed, opensAt, single⟩ := opens
  obtain ⟨after, entered, switched, request, ended, ledgerEq, asked, refused⟩ := ends
  obtain ⟨-, -, opened, other, phases, warms, split, stops⟩ :=
    Reaches.checkpoints_on_first opened_duals rfl Controller.new_dual .start
      (show duals.controllers[0]? = some .dual from rfl) ended
  obtain ⟨-, rfl⟩ := warms.unique opensAt
  obtain ⟨-, phasesEq⟩ := List.append_inj (split.symm.trans ledgerEq) (by simp [single])
  have off : ¬ request.controller.IsOnFirst := by
    intro settled
    have passed := Controller.ensureCheckpointable_eq_ok_iff.mpr
      fun set member slot inside => (settled set member slot inside).active_eq
    cases passed.symm.trans refused
  obtain ⟨-, set, index, slot, firstOff, same⟩ := stops rfl _ _ _ phasesEq asked off
  exact ⟨after, [entered, switched], request, set, index, slot, same ▸ ended,
    by simp [ledgerEq], asked, firstOff⟩

end Registry

end Mainboard
