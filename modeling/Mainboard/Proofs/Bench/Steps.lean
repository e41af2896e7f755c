import Mainboard.Proofs.Bench.Ends
import Mainboard.Proofs.Switching.Instances

/-!
# The steps of a bench

Whatever is done at a bench is a sequence of steps of three kinds: a call that
hands no cores over, a hand-over that the engine completes, and a hand-over
that the engine fails.  An action that gives up does so for a reason that is
seen at the bench it leaves.  Both are proved of every action here, together
with the calls that it makes, so that an invariant of whole runs needs a proof
for the steps only.
-/

namespace Mainboard

/-- The batch whose cores an engine has handed over, in an entry that says so. -/
def LedgerEntry.handedOver? : LedgerEntry → Option Batch
  | ⟨.switchCores batch, .ok _, _, _⟩ => some batch
  | _ => none

/-- A call hands over no cores but those of a cluster. -/
def Call.IsWithin (cluster : Nat) (call : Call) : Prop :=
  ∀ batch, call = .switchCores batch → batch.cluster = cluster

theorem Call.isWithin_switchCores {cluster : Nat} (batch : Batch) (same : batch.cluster = cluster) :
    Call.IsWithin cluster (.switchCores batch) := by
  intro other named
  rwa [← Call.switchCores.inj named]

/-- The calls of a trace are all that an engine is asked between two of its states, and the answers
are those that it gives. -/
inductive Engine.Answers {σ : Type} (engine : Engine σ) (start : σ) : List LedgerEntry → σ → Prop
  | nil : Answers engine start [] start
  | snoc {trace : List LedgerEntry} {state : σ} (earlier : Answers engine start trace state)
      (entry : LedgerEntry) (answer_eq : entry.answer = (engine.answer entry.call state).1)
      (tick_eq : entry.tick = engine.tick state) :
      Answers engine start (trace ++ [entry]) (engine.answer entry.call state).2

namespace Bench

variable {σ : Type}

/-- The bench while a batch holds its cluster. -/
def taken (bench : Bench σ) (batch : Batch) : Bench σ :=
  { bench with
    controller := bench.controller.held batch
    nextToken := bench.nextToken + 1 }

theorem handedOver?_entry_of_other {engine : Engine σ} {call : Call}
    (other : ∀ batch, call ≠ .switchCores batch) (bench : Bench σ) :
    (bench.entry engine call).handedOver? = none := by
  cases call with
  | switchCores batch => exact absurd rfl (other batch)
  | instantiate | simulate | checkpoint | dumpStatistics | resetStatistics => rfl

theorem handedOver?_entry_of_ok {engine : Engine σ} {bench : Bench σ} {batch : Batch}
    (answered : (engine.answer (.switchCores batch) bench.engine).1 = .ok ()) :
    (bench.entry engine (.switchCores batch)).handedOver? = some batch := by
  simp [entry, answered, LedgerEntry.handedOver?]

theorem handedOver?_entry_of_error {engine : Engine σ} {bench : Bench σ} {batch : Batch}
    {message : String}
    (answered : (engine.answer (.switchCores batch) bench.engine).1 = .error message) :
    (bench.entry engine (.switchCores batch)).handedOver? = none := by
  simp [entry, answered, LedgerEntry.handedOver?]

/-- One step of a bench, with a call of those that are named. -/
inductive Step (engine : Engine σ) (calls : Call → Prop) (before : Bench σ) : Bench σ → Prop
  /-- A call that hands no cores over. -/
  | call (call : Call) (named : calls call) (other : ∀ batch, call ≠ .switchCores batch) :
      Step engine calls before (before.record engine call)
  /-- A hand-over that the engine completes. -/
  | handOver {requests : List (Nat × CoreModel)} {batch : Batch}
      (named : calls (.switchCores batch))
      (begun : before.controller.begin before.nextToken batch.cluster requests =
        .ok (batch, before.controller.held batch))
      (answered : (engine.answer (.switchCores batch) before.engine).1 = .ok ()) :
      Step engine calls before
        { (before.taken batch).record engine (.switchCores batch) with
          controller := before.controller.committed batch }
  /-- A hand-over that the engine fails. -/
  | breakDown {requests : List (Nat × CoreModel)} {batch : Batch} {message : String}
      (named : calls (.switchCores batch))
      (begun : before.controller.begin before.nextToken batch.cluster requests =
        .ok (batch, before.controller.held batch))
      (answered : (engine.answer (.switchCores batch) before.engine).1 = .error message) :
      Step engine calls before
        { (before.taken batch).record engine (.switchCores batch) with
          controller := before.controller.aborted batch }

abbrev Steps (engine : Engine σ) (calls : Call → Prop) : Bench σ → Bench σ → Prop :=
  Relation.ReflTransGen (Step engine calls)

section Frame

variable {engine : Engine σ} {calls : Call → Prop} {before after : Bench σ}

theorem Steps.sequence_eq (steps : Steps engine calls before after) :
    after.controller.sequence = before.controller.sequence := by
  induction steps with
  | refl => rfl
  | tail _ step ih =>
      rw [← ih]
      cases step with
      | call | handOver | breakDown => rfl

theorem Steps.length_sets (steps : Steps engine calls before after) :
    after.controller.sets.length = before.controller.sets.length := by
  induction steps with
  | refl => rfl
  | tail _ step ih =>
      rw [← ih]
      cases step with
      | call => rfl
      | handOver | breakDown => exact Controller.length_modifySet ..

/-- A cluster that is not handed over stays as it is. -/
theorem Steps.getElem?_sets (steps : Steps engine calls before after) {cluster : Nat}
    (apart : ∀ batch, calls (.switchCores batch) → batch.cluster ≠ cluster) :
    after.controller.sets[cluster]? = before.controller.sets[cluster]? := by
  induction steps with
  | refl => rfl
  | tail _ step ih =>
      rw [← ih]
      cases step with
      | call => rfl
      | handOver named => exact Controller.getElem?_committed_of_ne (apart _ named)
      | breakDown named => exact Controller.getElem?_aborted_of_ne (apart _ named)

theorem Steps.getElem?_sets_of_isWithin {cluster other : Nat}
    (steps : Steps engine (Call.IsWithin cluster) before after) (apart : other ≠ cluster) :
    after.controller.sets[other]? = before.controller.sets[other]? :=
  steps.getElem?_sets fun batch named => named batch rfl ▸ Ne.symm apart

theorem Step.exists_entry (step : Step engine calls before after) :
    ∃ entry, after.ledger = before.ledger ++ [entry] ∧ calls entry.call := by
  cases step with
  | call call named => exact ⟨_, rfl, named⟩
  | handOver named | breakDown named => exact ⟨_, rfl, named⟩

theorem Steps.exists_rest (steps : Steps engine calls before after) :
    ∃ rest, after.ledger = before.ledger ++ rest ∧ ∀ entry ∈ rest, calls entry.call := by
  induction steps with
  | refl => exact ⟨[], by simp, by simp⟩
  | tail _ step ih =>
      obtain ⟨rest, ledgerEq, made⟩ := ih
      obtain ⟨last, grown, named⟩ := step.exists_entry
      refine ⟨rest ++ [last], by rw [grown, ledgerEq, List.append_assoc], ?_⟩
      intro entry member
      rcases List.mem_append.mp member with earlier | latest
      · exact made entry earlier
      · rwa [List.mem_singleton.mp latest]

/-- Every call of an engine is entered in the ledger as it is answered. -/
theorem Steps.answers (steps : Steps engine calls before after) {start : σ}
    (entered : engine.Answers start before.ledger before.engine) :
    engine.Answers start after.ledger after.engine := by
  induction steps with
  | refl => exact entered
  | tail _ step ih =>
      cases step with
      | call call => exact ih.snoc (entry _ engine call) rfl rfl
      | handOver | breakDown => exact ih.snoc (entry (taken _ _) engine (.switchCores _)) rfl rfl

end Frame

section Instances

variable {engine : Engine σ} {calls : Call → Prop} {before after : Bench σ} {fresh : Controller}

theorem Step.follows (step : Step engine calls before after)
    (follows : fresh.Follows before.controller) : fresh.Follows after.controller := by
  cases step with
  | call call named other => exact follows
  | handOver named begun answered =>
      obtain ⟨set, begins⟩ := (Controller.begin_eq_ok begun).2.2
      exact follows.committed (follows.sequence_eq ▸ begins.target_lt)
  | breakDown named begun answered => exact follows.aborted _

/-- Steps leave the instances as they are and every cluster on one position. -/
theorem Steps.follows (steps : Steps engine calls before after)
    (follows : fresh.Follows before.controller) : fresh.Follows after.controller := by
  induction steps with
  | refl => exact follows
  | tail _ step ih => exact step.follows ih

end Instances

/-- Why an action gives up at a bench. -/
inductive Raises (bench : Bench σ) : Halt → Prop
  | engine (message : String) : Raises bench (.failed (.engine message))
  | refused {cluster : Nat} {requests : List (Nat × CoreModel)} {error : Error}
      (refused : bench.controller.begin bench.nextToken cluster requests = .error error) :
      Raises bench (.failed error)
  | missing {cluster : Nat} {error : Error}
      (missing : bench.controller.set cluster = .error error) : Raises bench (.failed error)
  | mixed {cluster : Nat} {set : SlotSet} (found : bench.controller.set cluster = .ok set)
      (mixed : set.commonActive? = none) :
      Raises bench (.failed (.switch cluster .mixedFidelity))
  | unknown {cluster : Nat} {target : CoreModel}
      (unknown : bench.controller.sequence.position? target = none) :
      Raises bench (.failed (.switch cluster (.notInSequence target)))
  | offFirst {error : Error} (off : bench.controller.ensureCheckpointable = .error error) :
      Raises bench (.failed error)
  | outOfPatience : Raises bench .outOfPatience

theorem Raises.of_error_eq {α : Type} {bench : Bench σ} {halt : Halt} (raised : Raises bench halt)
    (other : Halt) (same : (Except.error halt : Except Halt α) = .error other) :
    Raises bench other := by
  obtain rfl := Except.error.inj same
  exact raised

end Bench

namespace Action

open Bench

variable {σ α β : Type}

/-- An action takes steps only, with calls of those that are named, and gives up
only where it has a reason to. -/
def Stepwise (engine : Engine σ) (calls : Call → Prop) (action : Action σ α) : Prop :=
  ∀ ⦃before result after⦄, Ends action before result after →
    Steps engine calls before after ∧ ∀ halt, result = .error halt → after.Raises halt

section Closure

variable {engine : Engine σ} {calls : Call → Prop} {action : Action σ α} {next : α → Action σ β}

theorem Stepwise.pure (value : α) : Stepwise engine calls (pure value) := by
  intro before result after ended
  obtain ⟨rfl, rfl⟩ := ends_pure_iff.mp ended
  exact ⟨.refl, by simp⟩

theorem Stepwise.bind (first : Stepwise engine calls action)
    (rest : ∀ value, Stepwise engine calls (next value)) :
    Stepwise engine calls (action >>= next) := by
  intro before result after ended
  obtain ⟨halt, rfl, stopped⟩ | ⟨value, middle, reached, continued⟩ := ends_bind_iff.mp ended
  · obtain ⟨steps, raised⟩ := first stopped
    exact ⟨steps, (raised halt rfl).of_error_eq⟩
  · obtain ⟨steps, -⟩ := first reached
    obtain ⟨more, raised⟩ := rest value continued
    exact ⟨steps.trans more, raised⟩

theorem Stepwise.getBind {next : Bench σ → Action σ β}
    (rest : ∀ bench, Stepwise engine calls (next bench)) : Stepwise engine calls (get >>= next) :=
  fun before _ _ ended => rest before (ends_get_bind_iff.mp ended)

theorem Stepwise.forM {body : α → Action σ PUnit}
    (round : ∀ item, Stepwise engine calls (body item)) (items : List α) :
    Stepwise engine calls (items.forM body) := by
  induction items with
  | nil => exact .pure _
  | cons item items ih => exact .bind (round item) fun _ => ih

theorem Stepwise.outOfPatience : Stepwise engine calls (throw .outOfPatience : Action σ α) := by
  intro before result after ended
  obtain ⟨rfl, rfl⟩ := ends_throw_iff.mp ended
  exact ⟨.refl, Raises.outOfPatience.of_error_eq⟩

theorem stepwise_call {call : Call} (named : calls call)
    (other : ∀ batch, call ≠ .switchCores batch) :
    Stepwise engine calls (Action.call engine call) := by
  intro before result after ended
  obtain ⟨rfl, rfl⟩ := ends_call_iff.mp ended
  refine ⟨.single (.call call named other), fun halt failed => ?_⟩
  obtain ⟨message, -, rfl⟩ := Except.mapError_eq_error_iff.mp failed
  exact .engine message

end Closure

section Switches

variable {engine : Engine σ} {calls : Call → Prop} {before after : Bench σ}

theorem ends_begin {cluster : Nat} {requests : List (Nat × CoreModel)}
    {result : Except Halt Batch}
    (ended : Ends (Action.begin cluster requests) before result after) :
    (∃ error, before.controller.begin before.nextToken cluster requests = .error error ∧
        result = .error (.failed error) ∧ after = before) ∨
      ∃ batch, before.controller.begin before.nextToken cluster requests =
          .ok (batch, before.controller.held batch) ∧
        batch.cluster = cluster ∧ result = .ok batch ∧ after = before.taken batch := by
  rw [Action.begin, ends_get_bind_iff, ends_bind_iff] at ended
  cases begun : before.controller.begin before.nextToken cluster requests with
  | error error =>
      rw [begun] at ended
      obtain ⟨halt, rfl, refused⟩ | ⟨pair, middle, impossible, -⟩ := ended
      · obtain ⟨same, rfl⟩ := ends_fail_iff.mp refused
        obtain rfl := Except.error.inj same
        exact .inl ⟨error, rfl, rfl, rfl⟩
      · exact absurd (ends_fail_iff.mp impossible).1 (by simp)
  | ok pair =>
      obtain ⟨batch, controller⟩ := pair
      rw [begun] at ended
      obtain ⟨halt, -, impossible⟩ | ⟨pair, middle, taken, rest⟩ := ended
      · exact absurd (ends_pure_iff.mp impossible).1 (by simp)
      · obtain ⟨same, rfl⟩ := ends_pure_iff.mp taken
        obtain rfl := Except.ok.inj same
        simp only [ends_set_bind_iff, ends_pure_iff] at rest
        obtain ⟨rfl, rfl⟩ := rest
        obtain ⟨clusterEq, rfl, -⟩ := Controller.begin_eq_ok begun
        exact .inr ⟨batch, rfl, clusterEq, rfl, rfl⟩

/-- A switch of some slots is refused, or it is one hand-over: a batch that is
committed, or aborted if the engine fails. -/
theorem ends_switchSlots {cluster : Nat} {requests : List (Nat × CoreModel)}
    {result : Except Halt Unit}
    (ended : Ends (switchSlots engine cluster requests) before result after) :
    (∃ error, before.controller.begin before.nextToken cluster requests = .error error ∧
        result = .error (.failed error) ∧ after = before) ∨
      ∃ batch, before.controller.begin before.nextToken cluster requests =
          .ok (batch, before.controller.held batch) ∧ batch.cluster = cluster ∧
        (((engine.answer (.switchCores batch) before.engine).1 = .ok () ∧ result = .ok () ∧
            after = { (before.taken batch).record engine (.switchCores batch) with
              controller := before.controller.committed batch }) ∨
          ∃ message, (engine.answer (.switchCores batch) before.engine).1 = .error message ∧
            result = .error (.failed (.engine message)) ∧
            after = { (before.taken batch).record engine (.switchCores batch) with
              controller := before.controller.aborted batch }) := by
  rw [switchSlots, ends_bind_iff] at ended
  obtain ⟨halt, rfl, stopped⟩ | ⟨batch, taken, started, rest⟩ := ended
  · obtain ⟨error, refused, same, rfl⟩ | ⟨batch, -, -, impossible, -⟩ := ends_begin stopped
    · obtain rfl := Except.error.inj same
      exact .inl ⟨error, refused, rfl, rfl⟩
    · cases impossible
  obtain ⟨error, -, impossible, -⟩ | ⟨other, begun, clusterEq, same, rfl⟩ := ends_begin started
  · cases impossible
  obtain rfl := Except.ok.inj same
  obtain ⟨set, begins⟩ := (Controller.begin_eq_ok begun).2.2
  rw [ends_bind_iff] at rest
  obtain ⟨halt, -, impossible⟩ | ⟨answer, recorded, called, settled⟩ := rest
  · cases (ends_attempt_iff.mp impossible).1
  obtain ⟨same, rfl⟩ := ends_attempt_iff.mp called
  have answered := (Except.ok.inj same).symm
  refine .inr ⟨batch, begun, clusterEq, ?_⟩
  cases answer with
  | ok value => exact .inl ⟨answered, ends_change_of_ok begins.commit settled⟩
  | error message =>
      obtain ⟨halt, -, impossible⟩ | ⟨_, _, aborted, failed⟩ := ends_bind_iff.mp settled
      · cases (ends_change_of_ok begins.abort impossible).1
      · obtain ⟨-, rfl⟩ := ends_change_of_ok begins.abort aborted
        exact .inr ⟨message, answered, ends_fail_iff.mp failed⟩

theorem stepwise_switchSlots (cluster : Nat) (requests : List (Nat × CoreModel))
    (named : ∀ batch, batch.cluster = cluster → calls (.switchCores batch)) :
    Stepwise engine calls (switchSlots engine cluster requests) := by
  intro before result after ended
  obtain ⟨error, refused, rfl, rfl⟩ | ⟨batch, begun, rfl, completed⟩ := ends_switchSlots ended
  · exact ⟨.refl, (Raises.refused refused).of_error_eq⟩
  obtain ⟨answered, rfl, rfl⟩ | ⟨message, answered, rfl, rfl⟩ := completed
  · have done : Step engine calls before _ := .handOver (named batch rfl) begun answered
    exact ⟨.single done, by simp⟩
  · have failed : Step engine calls before _ := .breakDown (named batch rfl) begun answered
    exact ⟨.single failed, (Raises.engine message).of_error_eq⟩

theorem ends_slotSet_iff {cluster : Nat} {result : Except Halt SlotSet} :
    Ends (slotSet cluster) before result after ↔
      result = (before.controller.set cluster).mapError .failed ∧ after = before := by
  rw [slotSet, ends_get_bind_iff, ends_ofExcept_iff]

theorem stepwise_slotSet (cluster : Nat) : Stepwise engine calls (slotSet cluster) := by
  intro before result after ended
  obtain ⟨rfl, rfl⟩ := ends_slotSet_iff.mp ended
  refine ⟨.refl, fun halt failed => ?_⟩
  obtain ⟨error, missing, rfl⟩ := Except.mapError_eq_error_iff.mp failed
  exact .missing missing

theorem stepwise_switchTo (cluster : Nat) (target : CoreModel)
    (named : ∀ batch, batch.cluster = cluster → calls (.switchCores batch)) :
    Stepwise engine calls (switchTo engine cluster target) :=
  .bind (stepwise_slotSet cluster) fun _ => stepwise_switchSlots cluster _ named

/-- One round of a walk: the cluster is missing, its slots are apart from each
other, it has arrived, or it is switched to the next position and walks on. -/
theorem ends_walk_succ {cluster goal rounds done : Nat} {target : CoreModel}
    {result : Except Halt Nat}
    (ended : Ends (walk engine cluster goal target (rounds + 1) done) before result after) :
    (∃ error, before.controller.set cluster = .error error ∧
        result = .error (.failed error) ∧ after = before) ∨
      ∃ set, before.controller.set cluster = .ok set ∧
        ((set.commonActive? = none ∧
            result = .error (.failed (.switch cluster .mixedFidelity)) ∧ after = before) ∨
          (set.commonActive? = some goal ∧ result = .ok done ∧ after = before) ∨
          ∃ source, set.commonActive? = some source ∧ source ≠ goal ∧
            Ends (do
              switchTo engine cluster
                ((before.controller.sequence.model? (nextStop source goal)).getD target)
              walk engine cluster goal target rounds (done + 1)) before result after) := by
  rw [walk, ends_bind_iff] at ended
  obtain ⟨halt, rfl, missing⟩ | ⟨set, middle, found, rest⟩ := ended
  · obtain ⟨same, rfl⟩ := ends_slotSet_iff.mp missing
    obtain ⟨error, absent, rfl⟩ := Except.mapError_eq_error_iff.mp same.symm
    exact .inl ⟨error, absent, rfl, rfl⟩
  · obtain ⟨same, rfl⟩ := ends_slotSet_iff.mp found
    refine .inr ⟨set, Except.mapError_eq_ok_iff.mp same.symm, ?_⟩
    cases common : set.commonActive? with
    | none =>
        rw [common] at rest
        exact .inl ⟨rfl, ends_fail_iff.mp rest⟩
    | some source =>
        rw [common] at rest
        by_cases arrived : source = goal
        · subst arrived
          simp only [↓reduceIte, ends_pure_iff] at rest
          exact .inr (.inl ⟨rfl, rest⟩)
        · simp only [arrived, ↓reduceIte] at rest
          exact .inr (.inr ⟨source, rfl, arrived, ends_get_bind_iff.mp rest⟩)

theorem stepwise_walk (cluster goal : Nat) (target : CoreModel) (rounds done : Nat)
    (named : ∀ batch, batch.cluster = cluster → calls (.switchCores batch)) :
    Stepwise engine calls (walk engine cluster goal target rounds done) := by
  induction rounds generalizing done with
  | zero => exact .outOfPatience
  | succ rounds ih =>
      intro before result after ended
      obtain ⟨error, missing, rfl, rfl⟩ | ⟨set, found, round⟩ := ends_walk_succ ended
      · exact ⟨.refl, (Raises.missing missing).of_error_eq⟩
      obtain ⟨mixed, rfl, rfl⟩ | ⟨-, rfl, rfl⟩ | ⟨source, -, -, onward⟩ := round
      · exact ⟨.refl, (Raises.mixed found mixed).of_error_eq⟩
      · exact ⟨.refl, by simp⟩
      · exact Stepwise.bind (stepwise_switchTo cluster _ named) (fun _ => ih (done + 1)) onward

theorem ends_stepToward {cluster : Nat} {target : CoreModel} {result : Except Halt Nat}
    (ended : Ends (stepToward engine cluster target) before result after) :
    (before.controller.sequence.position? target = none ∧
        result = .error (.failed (.switch cluster (.notInSequence target))) ∧ after = before) ∨
      ∃ goal, before.controller.sequence.position? target = some goal ∧
        Ends (walk engine cluster goal target (before.controller.sequence.length + 1) 0)
          before result after := by
  rw [stepToward, ends_get_bind_iff] at ended
  cases position : before.controller.sequence.position? target with
  | none =>
      simp only [position] at ended
      exact .inl ⟨rfl, ends_fail_iff.mp ended⟩
  | some goal =>
      simp only [position] at ended
      exact .inr ⟨goal, rfl, ended⟩

theorem stepwise_stepToward (cluster : Nat) (target : CoreModel)
    (named : ∀ batch, batch.cluster = cluster → calls (.switchCores batch)) :
    Stepwise engine calls (stepToward engine cluster target) := by
  intro before result after ended
  obtain ⟨unknown, rfl, rfl⟩ | ⟨goal, -, walked⟩ := ends_stepToward ended
  · exact ⟨.refl, (Raises.unknown unknown).of_error_eq⟩
  · exact stepwise_walk cluster goal target _ 0 named walked

theorem stepwise_enter (fidelity : CoreModel) (switches : ∀ batch, calls (.switchCores batch)) :
    Stepwise engine calls (enter engine fidelity) :=
  .getBind fun _ => .forM (fun cluster =>
    .bind (stepwise_stepToward cluster fidelity fun batch _ => switches batch) fun _ => .pure _) _

theorem stepwise_revertAll (switches : ∀ batch, calls (.switchCores batch)) :
    Stepwise engine calls (revertAll engine) :=
  .getBind fun _ => stepwise_enter _ switches

theorem stepwise_ensureCheckpointable :
    Stepwise engine calls (ensureCheckpointable : Action σ Unit) := by
  intro before result after ended
  rw [ensureCheckpointable, ends_get_bind_iff, ends_ofExcept_iff] at ended
  obtain ⟨rfl, rfl⟩ := ended
  refine ⟨.refl, fun halt failed => ?_⟩
  obtain ⟨error, off, rfl⟩ := Except.mapError_eq_error_iff.mp failed
  exact .offFirst off

end Switches

section Runs

variable {engine : Engine σ} {calls : Call → Prop}

theorem stepwise_checkpoint (options : RunOptions) (switches : ∀ batch, calls (.switchCores batch))
    (checkpoints : ∀ directory, calls (.checkpoint directory)) :
    Stepwise engine calls (checkpoint engine options) := by
  have written : Stepwise engine calls (do
      ensureCheckpointable
      let directory := options.checkpointDirectory (engine.tick (← get).engine)
      let _ ← Action.call engine (.checkpoint directory)
      return directory) :=
    .bind stepwise_ensureCheckpointable fun _ => .getBind fun _ =>
      .bind (stepwise_call (checkpoints _) (by simp)) fun _ => .pure _
  rw [checkpoint]
  split
  · exact .bind (stepwise_revertAll switches) fun _ => written
  · exact written

section WarmUp

variable (stretches : ∀ limit, calls (.simulate limit)) (dumps : calls .dumpStatistics)
variable (resets : calls .resetStatistics)
include stretches dumps resets

theorem stepwise_warmUpFrom (threshold quantum : UInt64) (patience done : Nat) :
    Stepwise engine calls (warmUpFrom engine threshold quantum patience done) := by
  induction patience generalizing done with
  | zero => exact .outOfPatience
  | succ patience ih =>
      rw [warmUpFrom]
      refine .bind (stepwise_call (stretches _) (by simp)) fun event =>
        .bind (stepwise_call dumps (by simp)) fun committed => ?_
      split
      · exact .pure _
      split
      · exact .bind (stepwise_call resets (by simp)) fun _ => .pure _
      · exact ih (done + 1)

theorem stepwise_warmUp (options : RunOptions) (patience : Nat) :
    Stepwise engine calls (warmUp engine options patience) := by
  rw [warmUp]
  split
  · exact .pure _
  · exact stepwise_warmUpFrom stretches dumps resets ..

end WarmUp

variable (every : ∀ call, calls call)
include every

theorem stepwise_simulatePhase (options : RunOptions) (phase : Phase) (patience : Nat) :
    Stepwise engine calls (simulatePhase engine options phase patience) := by
  induction patience with
  | zero => exact .outOfPatience
  | succ patience ih =>
      rw [simulatePhase]
      refine .bind (stepwise_call (every _) (by simp)) fun event => ?_
      split
      · exact .pure _
      · exact .bind (stepwise_checkpoint options (fun _ => every _) fun _ => every _) fun _ =>
          .bind (stepwise_enter phase.fidelity fun _ => every _) fun _ => .bind ih fun _ => .pure _

theorem stepwise_runPhases (options : RunOptions) (patience : Nat) (phases : List Phase)
    (earlier : ExitEvent) :
    Stepwise engine calls (runPhases engine options patience phases earlier) := by
  induction phases generalizing earlier with
  | nil => exact .pure _
  | cons phase phases ih =>
      rw [runPhases]
      refine .bind (stepwise_enter phase.fidelity fun _ => every _) fun _ =>
        .bind (stepwise_simulatePhase every options phase patience) fun ending => ?_
      dsimp only
      split
      · exact .bind (ih ending.2) fun _ => .pure _
      · exact .pure _

theorem stepwise_afterWarmUp (options : RunOptions) (patience : Nat) (exited : Option ExitEvent) :
    Stepwise engine calls (afterWarmUp engine options patience exited) := by
  cases exited with
  | none => exact .getBind fun _ => stepwise_runPhases every ..
  | some event => exact .pure _

/-- A run takes steps only, and gives up only where it has a reason to. -/
theorem stepwise_run (topology : Topology) (options : RunOptions) (patience : Nat) :
    Stepwise engine calls (run engine topology options patience) :=
  .bind (stepwise_call (every _) (by simp)) fun _ =>
    .bind (stepwise_warmUp (fun _ => every _) (every _) (every _) options patience) fun _ =>
      .bind (stepwise_afterWarmUp every options patience _) fun _ =>
        .bind (stepwise_call (every _) (by simp)) fun _ => .pure _

end Runs

end Action

end Mainboard
