import Mainboard.Proofs.Run.Checkpoints
import Mainboard.Proofs.Switching.Walks
import Mainboard.Proofs.Topology.Numbering
import Mathlib.Data.Prod.Lex

/-!
# The way back

A controller goes back to the first fidelity cluster by cluster.  Where the walk
of a cluster halts, the ones before it have arrived, and the ones after it have
not set out.  Whether all have arrived is what the check before a checkpoint
says, and if not, it names the first slot that has not.
-/

namespace Mainboard

/-- A call hands over the cores of a cluster. -/
def LedgerEntry.Switches (entry : LedgerEntry) (cluster : Nat) : Prop :=
  ∃ batch, entry.call = .switchCores batch ∧ batch.cluster = cluster

/-- A walk hands over no cores but those of its cluster. -/
theorem Walks.switches {sequence : FidelitySequence} {cluster source goal : Nat}
    {set final : SlotSet} {calls : List LedgerEntry} {result : Except Halt Unit}
    (walks : Walks sequence cluster set source goal calls result final) :
    ∀ entry ∈ calls, entry.Switches cluster := by
  have along : HandsOverAlong sequence cluster set source goal calls := by
    cases walks with
    | stays | refused => exact handsOverAlong_nil
    | arrives away idle along => exact along
    | breaksDown idle along => exact along
  intro entry member
  obtain ⟨steps, listed⟩ := List.getElem?_of_mem member
  obtain ⟨batch, model, called, clusterEq, -⟩ := along steps entry listed
  exact ⟨batch, called, clusterEq⟩

namespace Controller

/-- A walk to a position takes a cluster from how it is in one controller to how it is in another. -/
def WalksTo (before after : Controller) (cluster goal : Nat) (calls : List LedgerEntry)
    (result : Except Halt Unit) : Prop :=
  ∃ set source final, before.sets[cluster]? = some set ∧ set.commonActive? = some source ∧
    after.sets[cluster]? = some final ∧ Walks before.sequence cluster set source goal calls result
      final

section Walks

variable {before after next : Controller} {cluster goal : Nat} {calls : List LedgerEntry}
variable {result : Except Halt Unit}

theorem WalksTo.congr (moves : before.WalksTo after cluster goal calls result)
    (same : next.sets[cluster]? = after.sets[cluster]?) :
    before.WalksTo next cluster goal calls result := by
  obtain ⟨set, source, final, found, common, there, walks⟩ := moves
  exact ⟨set, source, final, found, common, same.trans there, walks⟩

theorem WalksTo.switches (moves : before.WalksTo after cluster goal calls result) :
    ∀ entry ∈ calls, entry.Switches cluster := by
  obtain ⟨set, source, final, -, -, -, walks⟩ := moves
  exact walks.switches

/-- A walk without a halt has arrived. -/
theorem WalksTo.active_eq (moves : before.WalksTo after cluster goal calls (.ok ())) {set : SlotSet}
    (found : after.sets[cluster]? = some set) : ∀ slot ∈ set.slots, slot.active = goal := by
  obtain ⟨origin, source, final, -, common, there, walks⟩ := moves
  obtain rfl := Option.some.inj (there.symm.trans found)
  exact walks.active_eq common

end Walks

/-- The slot at a place of a cluster. -/
def slot? (controller : Controller) (cluster index : Nat) : Option Slot :=
  controller.sets[cluster]?.bind fun set => set.slots[index]?

/-- A slot is off the first fidelity, and all at places before it, in lexicographic order, are on
it. -/
structure FirstOffAt (controller : Controller) (cluster index : Nat) (slot : Slot) : Prop where
  found : controller.slot? cluster index = some slot
  off : ¬ slot.IsOnFirst controller.sequence
  earlier : ∀ {other place : Nat} {before : Slot}, controller.slot? other place = some before →
    toLex (other, place) < toLex (cluster, index) → before.IsOnFirst controller.sequence

/-- The slot that a refusal names, at its place. -/
theorem FirstOff.at {controller : Controller} {set : SlotSet} {index : Nat} {slot : Slot}
    (first : controller.FirstOff set index slot) :
    ∃ cluster, controller.sets[cluster]? = some set ∧
      controller.FirstOffAt cluster index slot := by
  obtain ⟨before, after, split, settled⟩ := first.clusters
  have here : controller.sets[before.length]? = some set := by simp [split]
  refine ⟨before.length, here, ?_, fun on => first.off on.model_eq, ?_⟩
  · rw [slot?, here, Option.bind_some, first.found]
  intro other place found there ahead
  obtain ⟨cluster, listed, inside⟩ := Option.bind_eq_some_iff.mp there
  rcases Prod.Lex.toLex_lt_toLex.mp ahead with earlier | ⟨same, left⟩
  · rw [split, List.getElem?_append_left earlier] at listed
    exact settled cluster (List.mem_of_getElem? listed) found (List.mem_of_getElem? inside)
  · obtain rfl : other = before.length := same
    obtain rfl := Option.some.inj (here.symm.trans listed)
    refine first.slots found (List.mem_of_getElem? (i := place) ?_)
    rw [List.getElem?_take_of_lt left, inside]

/-- A cluster keeps the number that it has in the machine. -/
theorem Follows.exists_cluster {machine : Topology} {sequence : FidelitySequence}
    {switching : SwitchOptions} {fresh controller : Controller}
    (follows : fresh.Follows controller)
    (built : Controller.new machine sequence switching = .ok fresh) {cluster : Nat} {set : SlotSet}
    (found : controller.sets[cluster]? = some set) :
    ∃ made, machine.clusters[cluster]? = some made ∧ set.cluster = made.index := by
  obtain ⟨origin, first, position, -, state, rfl⟩ := follows.exists_placed found
  rw [new_eq_ok built, List.getElem?_map] at first
  obtain ⟨made, listed, rfl⟩ := Option.map_eq_some_iff.mp first
  exact ⟨made, listed, rfl⟩

end Controller

theorem AreNumbered.index_eq {clusters : List Cluster} (numbered : AreNumbered clusters)
    {place : Nat} {cluster : Cluster} (found : clusters[place]? = some cluster) :
    cluster.index = place :=
  Cluster.index_eq_of_numbered numbered.indices found

namespace Bench

variable {σ : Type}

/-- The first clusters have walked to a position, and nothing else has happened. -/
structure HasMoved (before : Bench σ) (goal count : Nat) (after : Bench σ) : Prop where
  earlier : ∀ cluster < count, ∃ calls,
    before.controller.WalksTo after.controller cluster goal calls (.ok ())
  later : ∀ cluster, count ≤ cluster →
    after.controller.sets[cluster]? = before.controller.sets[cluster]?
  ledger : ∃ calls, after.ledger = before.ledger ++ calls ∧
    ∀ entry ∈ calls, ∃ cluster < count, entry.Switches cluster

/-- The walk of a cluster to a position has halted.  The clusters before it have walked there, those
after it are as they were, and none of their cores have been handed over. -/
structure HaltsAt (before : Bench σ) (goal cluster : Nat) (halt : Halt) (after : Bench σ) :
    Prop where
  earlier : ∀ other < cluster, ∃ calls,
    before.controller.WalksTo after.controller other goal calls (.ok ())
  here : ∃ done calls, after.ledger = before.ledger ++ done ++ calls ∧
    (∀ entry ∈ done, ∃ other < cluster, entry.Switches other) ∧
    (∀ entry ∈ calls, entry.Switches cluster) ∧
    before.controller.WalksTo after.controller cluster goal calls (.error halt)
  later : ∀ other, cluster < other →
    after.controller.sets[other]? = before.controller.sets[other]?

theorem hasMoved_zero (bench : Bench σ) (goal : Nat) : bench.HasMoved goal 0 bench where
  earlier := by simp
  later := fun _ _ => rfl
  ledger := ⟨[], by simp, by simp⟩

section Walks

variable {before middle after : Bench σ} {goal count : Nat} {calls : List LedgerEntry}

theorem HasMoved.succ (moved : before.HasMoved goal count middle)
    (moves : before.controller.WalksTo after.controller count goal calls (.ok ()))
    (others : ∀ other ≠ count, after.controller.sets[other]? = middle.controller.sets[other]?)
    (ledgerEq : after.ledger = middle.ledger ++ calls) : before.HasMoved goal (count + 1) after where
  earlier := by
    intro cluster inside
    rcases Nat.lt_succ_iff_lt_or_eq.mp inside with earlier | rfl
    · obtain ⟨made, arrived⟩ := moved.earlier cluster earlier
      exact ⟨made, arrived.congr (others cluster (Nat.ne_of_lt earlier))⟩
    · exact ⟨calls, moves⟩
  later := fun cluster outside =>
    (others cluster (Nat.ne_of_gt outside)).trans (moved.later cluster (Nat.le_of_lt outside))
  ledger := by
    obtain ⟨done, grown, switched⟩ := moved.ledger
    refine ⟨done ++ calls, by rw [ledgerEq, grown, List.append_assoc], fun entry member => ?_⟩
    rcases List.mem_append.mp member with earlier | latest
    · obtain ⟨cluster, inside, switches⟩ := switched entry earlier
      exact ⟨cluster, Nat.lt_succ_of_lt inside, switches⟩
    · exact ⟨count, Nat.lt_succ_self count, moves.switches entry latest⟩

theorem HasMoved.haltsAt {halt : Halt} (moved : before.HasMoved goal count middle)
    (moves : before.controller.WalksTo after.controller count goal calls (.error halt))
    (others : ∀ other ≠ count, after.controller.sets[other]? = middle.controller.sets[other]?)
    (ledgerEq : after.ledger = middle.ledger ++ calls) : before.HaltsAt goal count halt after where
  earlier := by
    intro cluster inside
    obtain ⟨made, arrived⟩ := moved.earlier cluster inside
    exact ⟨made, arrived.congr (others cluster (Nat.ne_of_lt inside))⟩
  here := by
    obtain ⟨done, grown, switched⟩ := moved.ledger
    exact ⟨done, calls, by rw [ledgerEq, grown], switched, moves.switches, moves⟩
  later := fun other beyond =>
    (others other (Nat.ne_of_gt beyond)).trans (moved.later other (Nat.le_of_lt beyond))

end Walks

end Bench

namespace Action

variable {σ : Type} {engine : Engine σ} {before : Bench σ} {fidelity : CoreModel}

/-- Walks the first clusters to a fidelity, one after another. -/
def enterFirst (engine : Engine σ) (fidelity : CoreModel) (count : Nat) : Action σ Unit :=
  (List.range count).forM fun cluster => do
    let _ ← stepToward engine cluster fidelity

theorem enterFirst_succ (count : Nat) : enterFirst engine fidelity (count + 1) =
    (enterFirst engine fidelity count >>= fun _ => do
      let _ ← stepToward engine count fidelity) := by
  rw [enterFirst, List.range_succ, List.forM_eq_forM, List.forM_append]
  simp [enterFirst]

theorem stepwise_enterFirst (count : Nat) :
    Stepwise engine (fun _ => True) (enterFirst engine fidelity count) :=
  .forM (fun cluster => .bind (stepwise_stepToward cluster fidelity fun _ _ => trivial) fun _ =>
    .pure _) _

/-- The first clusters walk to a fidelity, or one of them halts, and the ones after it have not set
out. -/
theorem exists_ends_enterFirst (engine : Engine σ) {machine : Topology}
    {sequence : FidelitySequence} {switching : SwitchOptions} {fresh : Controller}
    (built : Controller.new machine sequence switching = .ok fresh)
    (staffed : ∀ cluster ∈ machine.clusters, cluster.cores ≠ [])
    (follows : fresh.Follows before.controller) {goal : Nat}
    (goal_eq : before.controller.sequence.position? fidelity = some goal) {count : Nat}
    (inside : count ≤ before.controller.sets.length) :
    ∃ result after, Ends (enterFirst engine fidelity count) before result after ∧
      ((result = .ok () ∧ before.HasMoved goal count after) ∨
        ∃ cluster halt, result = .error halt ∧ before.HaltsAt goal cluster halt after) := by
  induction count with
  | zero =>
      exact ⟨.ok (), before, ends_pure_iff.mpr ⟨rfl, rfl⟩, .inl ⟨rfl, before.hasMoved_zero goal⟩⟩
  | succ count ih =>
      obtain ⟨result, middle, ended, walked⟩ := ih (Nat.le_of_succ_le inside)
      rw [enterFirst_succ]
      obtain ⟨rfl, moved⟩ | ⟨cluster, halt, rfl, halted⟩ := walked
      -- The walks so far have left the next cluster as it was, so that it walks from there.
      · have steps := (stepwise_enterFirst count ended).1
        have there : before.controller.sets[count]? = some before.controller.sets[count] :=
          List.getElem?_eq_getElem inside
        have found := (moved.later count (Nat.le_refl count)).trans there
        obtain ⟨source, -, common⟩ :=
          follows.exists_common (Controller.slots_ne_nil_of_new built staffed) there
        rw [← steps.sequence_eq] at goal_eq
        obtain ⟨calls, outcome, after, final, onward, ledgerEq, arrived, walks, -⟩ :=
          exists_ends_stepToward engine built (steps.follows follows) found common goal_eq
        rw [steps.sequence_eq] at walks
        have moves : before.controller.WalksTo after.controller count goal calls outcome :=
          ⟨_, source, final, there, common, arrived, walks⟩
        have others : ∀ other ≠ count,
            after.controller.sets[other]? = middle.controller.sets[other]? :=
          fun other => getElem?_sets_of_stepToward onward
        cases outcome with
        | ok value =>
            refine ⟨.ok (), after, ends_bind_iff.mpr (.inr ⟨(), middle, ended, ?_⟩),
              .inl ⟨rfl, moved.succ moves others ledgerEq⟩⟩
            exact ends_bind_iff.mpr (.inr ⟨_, after, onward, ends_pure_iff.mpr ⟨rfl, rfl⟩⟩)
        | error halt =>
            refine ⟨.error halt, after, ends_bind_iff.mpr (.inr ⟨(), middle, ended, ?_⟩),
              .inr ⟨count, halt, rfl, moved.haltsAt moves others ledgerEq⟩⟩
            exact ends_bind_iff.mpr (.inl ⟨halt, rfl, onward⟩)
      · exact ⟨.error halt, middle, ends_bind_iff.mpr (.inl ⟨halt, rfl, ended⟩),
          .inr ⟨cluster, halt, rfl, halted⟩⟩

end Action

namespace Registry

/-- Whatever its controller has been asked for before, all clusters walk back to the first fidelity
and a checkpoint may be written, or one of them halts where its walk has brought it.  Those before
it are on the first fidelity then, and those after it are as they were.  A checkpoint may be written
if and only if every slot is on the first fidelity, and a refusal names the first that is not. -/
theorem Reaches.reverts_cluster_by_cluster {σ : Type} {start registry : Registry}
    {events : List Event} {number : Nat} {machine : Topology} {sequence : FidelitySequence}
    {switching : SwitchOptions} {fresh controller : Controller} (untouched : start.Opened)
    (first : start.controllers[number]? = some fresh)
    (built : Controller.new machine sequence switching = .ok fresh)
    (staffed : ∀ cluster ∈ machine.clusters, cluster.cores ≠ [])
    (reached : start.Reaches events registry)
    (found : registry.controllers[number]? = some controller) (engine : Engine σ) (state : σ) :
    (∃ result after,
      Action.Ends (Action.revertAll engine) (registry.bench controller state) result after ∧
      (result = .ok () → after.controller.IsOnFirst ∧
        after.controller.ensureCheckpointable = .ok ()) ∧
      ∀ halt, result = .error halt → ∃ cluster,
        (registry.bench controller state).HaltsAt 0 cluster halt after ∧
        ∀ other < cluster, ∀ set, after.controller.sets[other]? = some set →
          ∀ slot ∈ set.slots, slot.IsOnFirst controller.sequence) ∧
    (controller.ensureCheckpointable = .ok () ↔ controller.IsOnFirst) ∧
    (¬ controller.IsOnFirst → ∃ cluster index slot made,
      controller.FirstOffAt cluster index slot ∧ machine.clusters[cluster]? = some made ∧
      (AreNumbered machine.clusters → made.index = cluster) ∧
      controller.ensureCheckpointable = .error (.checkpointFidelity made.index index
        slot.activeInstance.model controller.sequence.first)) := by
  have follows := reached.follows_of_found untouched first built found
  have settled := follows.isOnFirst_iff built
  refine ⟨?_, settled.symm, fun moved => ?_⟩
  · have goal_eq : controller.sequence.position? controller.sequence.first = some 0 :=
      FidelitySequence.position?_of_model? controller.sequence.model?_zero
    have follows' : fresh.Follows (registry.bench controller state).controller := follows
    obtain ⟨result, after, ended, walked⟩ := Action.exists_ends_enterFirst engine built staffed
      follows' goal_eq (Nat.le_refl controller.sets.length)
    have steps := (Action.stepwise_enterFirst _ ended).1
    have returned : Action.Ends (Action.revertAll engine) (registry.bench controller state) result
        after := Action.ends_get_bind_iff.mpr (Action.ends_get_bind_iff.mpr ended)
    refine ⟨result, after, returned, ?_, ?_⟩
    · rintro rfl
      have checked := Action.ensureCheckpointable_of_revertAll returned
      exact ⟨((steps.follows follows).isOnFirst_iff built).mpr checked, checked⟩
    · rintro halt rfl
      obtain ⟨impossible, -⟩ | ⟨cluster, other, same, halted⟩ := walked
      · cases impossible
      obtain rfl := Except.error.inj same
      refine ⟨cluster, halted, fun other earlier set there slot member => ?_⟩
      obtain ⟨calls, moves⟩ := halted.earlier other earlier
      have arrived := (steps.follows follows).isOnFirst_iff_active built
        (List.mem_of_getElem? there) member
      rw [steps.sequence_eq] at arrived
      exact arrived.mpr (moves.active_eq there slot member)
  · cases checked : controller.ensureCheckpointable with
    | ok done => exact absurd (settled.mpr checked) moved
    | error error =>
        obtain ⟨set, index, slot, off, rfl⟩ := follows.firstOff_of_refused built checked
        obtain ⟨cluster, there, firstOff⟩ := off.at
        obtain ⟨made, listed, named⟩ := follows.exists_cluster built there
        exact ⟨cluster, index, slot, made, firstOff, listed,
          fun numbered => numbered.index_eq listed, by rw [named]⟩

/-- The controller with both clusters on the second fidelity. -/
def onTiming : Controller where
  sequence := .standard
  sets := Controller.twins.sets.map fun set => set.placed 1 .idle

/-- Two clusters are on the second fidelity.  The engine hands the first back, and fails over the
second. -/
theorem reverts_cluster_by_cluster_twins :
    ∃ events registry after, twins.Reaches events registry ∧
      registry.controllers[0]? = some onTiming ∧
      (registry.bench onTiming 1).HaltsAt 0 1 (.failed (.engine "no state to hand over"))
        after := by
  obtain ⟨one, other, middle, begun, served⟩ : ∃ one other middle,
      twins.serve 0 (.errand .tiring 1 (.stepToward 0 .timing)) = some (one, middle) ∧
      middle.serve 0 (.errand .tiring 1 (.stepToward 1 .timing)) = some (other,
        { controllers := [onTiming], nextToken := 3 }) :=
    ⟨_, _, _, rfl, rfl⟩
  have reached := (Reaches.start.next begun).next served
  have first : twins.controllers[0]? = some .twins := rfl
  have there : ({ controllers := [onTiming], nextToken := 3 } : Registry).controllers[0]? =
      some onTiming := rfl
  obtain ⟨broken, ended, poisoned⟩ : ∃ after,
      Action.Ends (Action.revertAll .tiring)
        (Registry.bench { controllers := [onTiming], nextToken := 3 } onTiming 1)
        (.error (.failed (.engine "no state to hand over"))) after ∧
      (after.controller.sets[1]?.map (·.isPoisoned)) = some true :=
    ⟨_, rfl, rfl⟩
  obtain ⟨⟨result, after, again, -, halts⟩, -⟩ := reached.reverts_cluster_by_cluster opened_twins
    first Controller.new_twins (by decide) there .tiring 1
  obtain ⟨rfl, rfl⟩ := ended.unique again
  obtain ⟨cluster, halted, -⟩ := halts _ rfl
  refine ⟨_, _, broken, reached, there, ?_⟩
  rcases Nat.lt_trichotomy cluster 1 with before | rfl | beyond
  · rw [halted.later 1 before] at poisoned
    cases poisoned
  · exact halted
  · obtain ⟨done, calls, -, -, -, set, source, final, listed, -⟩ := halted.here
    have inside : cluster < 2 := (List.getElem?_eq_some_iff.mp listed).1
    omega

end Registry

end Mainboard
