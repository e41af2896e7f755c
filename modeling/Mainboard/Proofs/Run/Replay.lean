import Mainboard.Engine.Scripted
import Mainboard.Proofs.Bench.Steps
import Mainboard.Proofs.Run.Preparation

/-!
# The controller and the engine agree

An engine knows the active instances from the batches that it has handed over.
Replaying those from the ledger of a run, from the first fidelity on, gives the
instances that the controller has active at every call: the two views never
drift apart.  A batch that the engine is called with is a hand-over of one whole
cluster, from the instances that are active there to those next to them.
-/

namespace Mainboard

namespace Controller

/-- The active instances, cluster by cluster. -/
def activeInstances (controller : Controller) : List (List CoreInstance) :=
  controller.sets.map fun set => set.slots.map Slot.activeInstance

/-- The instances of the first fidelity, cluster by cluster. -/
def firstInstances (controller : Controller) : List (List CoreInstance) :=
  controller.sets.map fun set => set.slots.map Slot.composed

end Controller

/-- The active instances once the cores of a batch are handed over. -/
def Batch.handOver (batch : Batch) (active : List (List CoreInstance)) :
    List (List CoreInstance) :=
  active.modify batch.cluster fun cluster =>
    batch.pairs.foldl (fun cluster pair => cluster.set pair.slot pair.incoming) cluster

/-- The active instances as the hand-overs of a ledger leave them. -/
def replay (active : List (List CoreInstance)) (ledger : List LedgerEntry) :
    List (List CoreInstance) :=
  (ledger.filterMap LedgerEntry.handedOver?).foldl (fun active batch => batch.handOver active)
    active

theorem replay_append_of_handedOver {active : List (List CoreInstance)} {ledger : List LedgerEntry}
    {entry : LedgerEntry} {batch : Batch} (handed : entry.handedOver? = some batch) :
    replay active (ledger ++ [entry]) = batch.handOver (replay active ledger) := by
  simp [replay, handed]

theorem replay_append_of_kept {active : List (List CoreInstance)} {ledger : List LedgerEntry}
    {entry : LedgerEntry} (kept : entry.handedOver? = none) :
    replay active (ledger ++ [entry]) = replay active ledger := by
  simp [replay, kept]

/-- A batch takes every slot of one cluster, in order, from its active instance
to the instance of the same core that is next to it in the sequence. -/
structure Batch.SwitchesCluster (fresh : Controller) (active : List (List CoreInstance))
    (batch : Batch) : Prop where
  slots_eq : batch.pairs.map (·.slot) = List.range batch.pairs.length
  outgoing_eq : active[batch.cluster]? = some (batch.pairs.map (·.outgoing))
  near : batch.source + 1 = batch.target ∨ batch.target + 1 = batch.source
  instances : ∀ pair ∈ batch.pairs, ∃ set slot, fresh.sets[batch.cluster]? = some set ∧
    set.slots[pair.slot]? = some slot ∧
    slot.instances[batch.source]? = some pair.outgoing ∧
    slot.instances[batch.target]? = some pair.incoming
  identity_eq : ∀ pair ∈ batch.pairs, pair.incoming.identity = pair.outgoing.identity
  models : ∀ pair ∈ batch.pairs,
    fresh.sequence.model? batch.source = some pair.outgoing.model ∧
      fresh.sequence.model? batch.target = some pair.incoming.model

/-- A call is made while the controller has some instances active, and if it is
a hand-over, then it is one from those. -/
structure LedgerEntry.Agrees (fresh : Controller) (active : List (List CoreInstance))
    (entry : LedgerEntry) : Prop where
  active_eq : entry.controller.activeInstances = active
  switches : ∀ batch, entry.call = .switchCores batch → batch.SwitchesCluster fresh active

section Switch

variable {controller fresh : Controller} {batch : Batch} {set : SlotSet} {token : Nat}

/-- Setting slot after slot to its incoming instance makes all of them active. -/
theorem foldl_set_pairs (slots : List Slot) (source target : Nat) (done rest : List CoreInstance)
    (sameLength : rest.length = slots.length) :
    (slots.mapIdx fun index slot => (
        { slot := done.length + index
          outgoing := slot.instanceAt source
          incoming := slot.instanceAt target } : SwitchPair)).foldl
      (fun cluster pair => cluster.set pair.slot pair.incoming) (done ++ rest) =
      done ++ slots.map (·.instanceAt target) := by
  induction slots generalizing done rest with
  | nil =>
      obtain rfl := List.length_eq_zero_iff.mp sameLength
      rfl
  | cons slot slots ih =>
      obtain ⟨first, rest, rfl⟩ := List.exists_cons_of_length_eq_add_one sameLength
      have further := ih (done ++ [slot.instanceAt target]) rest (Nat.succ.inj sameLength)
      have placed : (done ++ first :: rest).set done.length (slot.instanceAt target) =
          done ++ [slot.instanceAt target] ++ rest := by
        simp
      have shifted : ∀ index, done.length + (index + 1) =
          (done ++ [slot.instanceAt target]).length + index := by
        intro index
        rw [List.length_append, List.length_singleton]
        omega
      simp only [List.mapIdx_cons, List.foldl_cons, Nat.add_zero, placed, shifted, List.map_cons]
      rw [further, List.append_assoc, List.singleton_append]

theorem Controller.getElem?_activeInstances (controller : Controller) (cluster : Nat) :
    controller.activeInstances[cluster]? =
      controller.sets[cluster]?.map fun set => set.slots.map Slot.activeInstance :=
  List.getElem?_map

theorem Controller.activeInstances_modifySet_state (controller : Controller) (cluster : Nat)
    (state : SetState) :
    (controller.modifySet cluster fun set => { set with state }).activeInstances =
      controller.activeInstances := by
  apply List.ext_getElem?
  intro other
  rw [getElem?_activeInstances, getElem?_activeInstances, getElem?_modifySet]
  split
  · rw [Option.map_map]
    rfl
  · rfl

/-- The slots of a cluster that is on a position have the instances there active. -/
theorem Controller.activeInstances_of_common {position : Nat}
    (common : set.commonActive? = some position) :
    set.slots.map Slot.activeInstance = set.slots.map (·.instanceAt position) := by
  apply List.map_congr_left
  intro slot member
  rw [Slot.activeInstance, (SlotSet.commonActive?_eq_some_iff.mp common).2 slot member]

theorem Controller.activeInstances_of_new {topology : Topology} {sequence : FidelitySequence}
    {options : SwitchOptions} (built : Controller.new topology sequence options = .ok fresh) :
    fresh.activeInstances = fresh.firstInstances := by
  rw [new_eq_ok built, activeInstances, firstInstances, List.map_map, List.map_map]
  apply List.map_congr_left
  intro cluster _
  simp only [Function.comp_apply, freshSet, List.map_map]
  rfl

/-- Committing a batch and handing its cores over come to the same. -/
theorem Controller.Begins.activeInstances_committed (begins : controller.Begins token set batch) :
    (controller.committed batch).activeInstances = batch.handOver controller.activeInstances := by
  apply List.ext_getElem?
  intro other
  rw [getElem?_activeInstances, committed, getElem?_modifySet, Batch.handOver, List.getElem?_modify,
    getElem?_activeInstances]
  by_cases same : batch.cluster = other
  · subst same
    have handed := foldl_set_pairs set.slots batch.source batch.target []
      (set.slots.map Slot.activeInstance) (List.length_map _)
    simp only [List.length_nil, Nat.zero_add, List.nil_append] at handed
    simp only [↓reduceIte, begins.found, Option.map_eq_map, Option.map_some, begins.pairs_eq,
      Controller.pairs, handed, SlotSet.slots_activate, List.map_map]
    rfl
  · simp [same]

theorem Controller.Begins.exists_slot_of_mem (begins : controller.Begins token set batch)
    {pair : SwitchPair} (member : pair ∈ batch.pairs) :
    ∃ slot, set.slots[pair.slot]? = some slot ∧
      pair.outgoing = slot.instanceAt batch.source ∧
      pair.incoming = slot.instanceAt batch.target := by
  rw [begins.pairs_eq, pairs] at member
  obtain ⟨index, inside, rfl⟩ := List.mem_mapIdx.mp member
  exact ⟨set.slots[index], List.getElem?_eq_getElem inside, rfl, rfl⟩

theorem Controller.Begins.switchesCluster {topology : Topology} {sequence : FidelitySequence}
    {options : SwitchOptions} (built : Controller.new topology sequence options = .ok fresh)
    (follows : fresh.Follows controller) (begins : controller.Begins token set batch) :
    batch.SwitchesCluster fresh controller.activeInstances := by
  have sourceInside := follows.lt_of_common begins.found begins.source_eq
  have targetInside : batch.target < fresh.sequence.length :=
    follows.sequence_eq ▸ begins.target_lt
  obtain ⟨origin, first, position, -, state, placed⟩ := follows.exists_placed begins.found
  -- Positions are kept in a slot but instances are not changed there, so the
  -- batch may be read off the slots that the cluster was made with.
  have original : ∀ pair ∈ batch.pairs, ∃ slot ∈ origin.slots,
      origin.slots[pair.slot]? = some slot ∧
        pair.outgoing = slot.instanceAt batch.source ∧
        pair.incoming = slot.instanceAt batch.target := by
    intro pair member
    obtain ⟨slot, found, outgoing, incoming⟩ := begins.exists_slot_of_mem member
    rw [placed, SlotSet.slots_placed, List.getElem?_map] at found
    obtain ⟨made, listed, rfl⟩ := Option.map_eq_some_iff.mp found
    exact ⟨made, List.mem_of_getElem? listed, listed, outgoing, incoming⟩
  have member := List.mem_of_getElem? first
  exact
    { slots_eq := by
        rw [begins.pairs_eq, pairs]
        apply List.ext_getElem <;> simp
      outgoing_eq := by
        rw [getElem?_activeInstances, begins.found, Option.map_some,
          activeInstances_of_common begins.source_eq, begins.pairs_eq, pairs]
        apply congrArg some
        apply List.ext_getElem <;> simp
      near := adjacent_iff.mp begins.adjacent
      instances := by
        intro pair listed
        obtain ⟨slot, inside, found, outgoing, incoming⟩ := original pair listed
        have source := (model?_of_new built member inside sourceInside).1
        have target := (model?_of_new built member inside targetInside).1
        exact ⟨origin, slot, first, found, outgoing ▸ source, incoming ▸ target⟩
      identity_eq := by
        intro pair listed
        obtain ⟨slot, inside, -, outgoing, incoming⟩ := original pair listed
        have source := (model?_of_new built member inside sourceInside).1
        have target := (model?_of_new built member inside targetInside).1
        rw [outgoing, incoming, identity_of_new built member inside (List.mem_of_getElem? source),
          identity_of_new built member inside (List.mem_of_getElem? target)]
      models := by
        intro pair listed
        obtain ⟨slot, inside, -, outgoing, incoming⟩ := original pair listed
        have source := (model?_of_new built member inside sourceInside).2
        have target := (model?_of_new built member inside targetInside).2
        exact ⟨outgoing ▸ source, incoming ▸ target⟩ }

end Switch

/-- Every call of a ledger agrees with the hand-overs before it. -/
def LedgerAgrees (fresh : Controller) (ledger : List LedgerEntry) : Prop :=
  ∀ (index : Nat) (entry : LedgerEntry), ledger[index]? = some entry →
    entry.Agrees fresh (replay fresh.firstInstances (ledger.take index))

theorem LedgerAgrees.append {fresh : Controller} {ledger : List LedgerEntry} {last : LedgerEntry}
    (earlier : LedgerAgrees fresh ledger)
    (agrees : last.Agrees fresh (replay fresh.firstInstances ledger)) :
    LedgerAgrees fresh (ledger ++ [last]) := by
  intro index entry found
  by_cases inside : index < ledger.length
  · rw [List.getElem?_append_left inside] at found
    rw [List.take_append_of_le_length (Nat.le_of_lt inside)]
    exact earlier index entry found
  · have bound := (List.getElem?_eq_some_iff.mp found).1
    rw [List.length_append, List.length_singleton] at bound
    obtain rfl : index = ledger.length := by omega
    rw [List.getElem?_concat_length] at found
    obtain rfl := Option.some.inj found
    rwa [List.take_left]

namespace Bench

variable {σ : Type} {engine : Engine σ} {calls : Call → Prop} {before after : Bench σ}
variable {fresh : Controller}

/-- The controller of a bench has those instances active that the ledger leaves. -/
structure Mirrors (fresh : Controller) (bench : Bench σ) : Prop where
  follows : fresh.Follows bench.controller
  active_eq : bench.controller.activeInstances = replay fresh.firstInstances bench.ledger
  agrees : LedgerAgrees fresh bench.ledger

theorem Mirrors.start {topology : Topology} {sequence : FidelitySequence}
    {options : SwitchOptions} (built : Controller.new topology sequence options = .ok fresh)
    (state : σ) : Mirrors fresh { engine := state, controller := fresh } where
  follows := Controller.follows_new built
  active_eq := Controller.activeInstances_of_new built
  agrees := by
    intro index entry found
    rw [List.getElem?_nil] at found
    cases found

theorem Mirrors.step {topology : Topology} {sequence : FidelitySequence} {options : SwitchOptions}
    (built : Controller.new topology sequence options = .ok fresh) (mirrors : Mirrors fresh before)
    (step : Step engine calls before after) : Mirrors fresh after where
  follows := step.follows mirrors.follows
  active_eq := by
    cases step with
    | call call named other =>
        rw [ledger_record, replay_append_of_kept (handedOver?_entry_of_other other before)]
        exact mirrors.active_eq
    | handOver named begun answered =>
        rename_i batch
        obtain ⟨set, begins⟩ := (Controller.begin_eq_ok begun).2.2
        have handed : ((before.taken batch).entry engine (.switchCores batch)).handedOver? =
            some batch :=
          handedOver?_entry_of_ok answered
        rw [ledger_record, replay_append_of_handedOver handed, begins.activeInstances_committed]
        exact congrArg batch.handOver mirrors.active_eq
    | breakDown named begun answered =>
        -- An abort poisons the cluster, but leaves active what the engine has kept.
        rename_i batch message
        have kept : ((before.taken batch).entry engine (.switchCores batch)).handedOver? = none :=
          handedOver?_entry_of_error answered
        rw [ledger_record, replay_append_of_kept kept]
        exact (Controller.activeInstances_modifySet_state ..).trans mirrors.active_eq
  agrees := by
    have handing : ∀ {batch : Batch} {requests : List (Nat × CoreModel)},
        before.controller.begin before.nextToken batch.cluster requests =
          .ok (batch, before.controller.held batch) →
        ((before.taken batch).entry engine (.switchCores batch)).Agrees fresh
          (replay fresh.firstInstances before.ledger) := by
      intro batch requests begun
      obtain ⟨set, begins⟩ := (Controller.begin_eq_ok begun).2.2
      rw [← mirrors.active_eq]
      refine ⟨Controller.activeInstances_modifySet_state .., ?_⟩
      intro other same
      obtain rfl := Call.switchCores.inj same
      exact begins.switchesCluster built mirrors.follows
    cases step with
    | call call named other =>
        refine mirrors.agrees.append ⟨mirrors.active_eq, ?_⟩
        intro batch same
        exact absurd same (other batch)
    | handOver named begun answered => exact mirrors.agrees.append (handing begun)
    | breakDown named begun answered => exact mirrors.agrees.append (handing begun)

theorem Mirrors.steps {topology : Topology} {sequence : FidelitySequence} {options : SwitchOptions}
    (built : Controller.new topology sequence options = .ok fresh) (mirrors : Mirrors fresh before)
    (steps : Steps engine calls before after) : Mirrors fresh after := by
  induction steps with
  | refl => exact mirrors
  | tail _ step ih => exact ih.step built step

end Bench

namespace Configuration

theorem new_of_prepare_eq_ok {configuration : Configuration} {prepared : Prepared}
    (ready : configuration.prepare = .ok prepared) :
    ∃ topology sequence options,
      Controller.new topology sequence options = .ok prepared.controller := by
  obtain ⟨-, ⟨sequence, -, built⟩, -⟩ := prepare_eq_ok ready
  exact ⟨prepared.topology, sequence, _, built⟩

/-- In the run of any configuration the controller and the engine agree at every
call.  The instances that the controller has active are those that the
hand-overs so far have left active, and every hand-over switches one cluster as
a whole, core by core, from these to the ones next to them. -/
theorem execute_agrees {σ : Type} (engine : Engine σ) (patience : Nat)
    (configuration : Configuration) (state : σ) :
    match configuration.prepare with
    | .error _ => (configuration.execute engine patience state).ledger = []
    | .ok prepared =>
        LedgerAgrees prepared.controller (configuration.execute engine patience state).ledger := by
  rw [execute]
  cases ready : configuration.prepare with
  | error error => rfl
  | ok prepared =>
      obtain ⟨topology, sequence, options, built⟩ := new_of_prepare_eq_ok ready
      have start := Bench.Mirrors.start built state
      have mirrors : ∀ result after,
          Action.Ends (Action.run engine prepared.topology prepared.options patience)
            { engine := state, controller := prepared.controller } result after →
          Bench.Mirrors prepared.controller after :=
        fun result after ended =>
          start.steps built (Action.stepwise_run (fun _ => trivial) _ _ _ ended).1
      dsimp only
      split
      next outcome bench ended => exact (mirrors (.ok outcome) bench ended).agrees
      next halt bench ended => exact (mirrors (.error halt) bench ended).agrees

/-- A phase of one core with a checkpoint hands the core over three times. -/
example :
    ((execute (Script.engine {}) 8 { run.phases := [⟨.timing, some 10⟩] }
      (.ofScript { events := [.checkpointRequest] })).ledger.map (·.call.kind)) =
      [.instantiate, .switchCores, .simulate, .switchCores, .checkpoint, .switchCores, .simulate,
        .dumpStatistics] := by
  decide +kernel

end Configuration

end Mainboard
