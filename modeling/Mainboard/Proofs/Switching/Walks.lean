import Mainboard.Proofs.Switching.Poisoning
import Mathlib.Data.Nat.Dist

/-!
# Walks

A cluster walks to a fidelity by one hand-over for each position on its way, and
as many as it is away.  A hand-over that fails ends the walk, with the cluster
poisoned on the last position that it has reached.  A cluster that is poisoned or
in flight walks nowhere.
-/

open Mainboard.Action

namespace Mainboard

theorem FidelitySequence.position?_of_model? {sequence : FidelitySequence} {model : CoreModel}
    {position : Nat} (found : sequence.model? position = some model) :
    sequence.position? model = some position := by
  obtain ⟨inside, same⟩ := List.getElem?_eq_some_iff.mp found
  refine List.idxOf?_eq_some_iff.mpr ⟨inside, same, fun earlier before again => ?_⟩
  have equal := (List.Nodup.getElem_inj_iff sequence.distinct).mp (again.trans same.symm)
  exact Nat.ne_of_lt before equal

theorem FidelitySequence.exists_model?_of_lt {sequence : FidelitySequence} {position : Nat}
    (inside : position < sequence.length) : ∃ model, sequence.model? position = some model :=
  Option.isSome_iff_exists.mp ((sequence.isSome_model?_iff position).mpr inside)

namespace SlotSet

theorem placed_placed (set : SlotSet) (first second : Nat) (earlier later : SetState) :
    (set.placed first earlier).placed second later = set.placed second later := by
  simp [placed, activate]

/-- A cluster whose slots are together is where they are. -/
theorem placed_of_common {set : SlotSet} {position : Nat}
    (common : set.commonActive? = some position) (state : SetState) :
    set.placed position state = { set with state } := by
  have active := (commonActive?_eq_some_iff.mp common).2
  have slots : (set.slots.map fun slot => { slot with active := position }) = set.slots := by
    refine (List.map_congr_left fun slot member => ?_).trans (List.map_id _)
    rw [← active slot member]
    rfl
  simp [placed, activate, slots]

theorem placed_of_idle {set : SlotSet} {position : Nat} (idle : set.state = .idle)
    (common : set.commonActive? = some position) : set.placed position .idle = set := by
  rw [placed_of_common common, ← idle]

end SlotSet

namespace Action

/-- Where a walk from one position to another is after some steps. -/
def stopAfter (source goal steps : Nat) : Nat :=
  if source ≤ goal then source + steps else source - steps

variable {source goal : Nat}

@[simp]
theorem stopAfter_zero (source goal : Nat) : stopAfter source goal 0 = source := by
  simp [stopAfter]

theorem stopAfter_one (away : source ≠ goal) : stopAfter source goal 1 = nextStop source goal := by
  unfold stopAfter nextStop
  split <;> split <;> omega

theorem dist_nextStop (away : source ≠ goal) :
    Nat.dist source goal = Nat.dist (nextStop source goal) goal + 1 := by
  unfold Nat.dist nextStop
  split <;> omega

/-- The rest of a walk is a walk from its next stop. -/
theorem stopAfter_nextStop (away : source ≠ goal) {steps : Nat}
    (bound : steps ≤ Nat.dist (nextStop source goal) goal) :
    stopAfter (nextStop source goal) goal steps = stopAfter source goal (steps + 1) := by
  rcases Nat.lt_or_gt_of_ne away with up | down
  · have on : nextStop source goal = source + 1 := if_pos up
    rw [on, stopAfter, stopAfter, if_pos (Nat.succ_le_of_lt up), if_pos (Nat.le_of_lt up)]
    omega
  · have back : nextStop source goal = source - 1 := if_neg (by omega)
    have onward : stopAfter source goal (steps + 1) = source - (steps + 1) := if_neg (by omega)
    rw [back] at bound ⊢
    rw [onward, stopAfter]
    unfold Nat.dist at bound
    split <;> omega

theorem nextStop_adjacent (away : source ≠ goal) :
    source + 1 = nextStop source goal ∨ nextStop source goal + 1 = source := by
  unfold nextStop
  split <;> omega

theorem nextStop_lt {bound : Nat} (sourceInside : source < bound) (goalInside : goal < bound) :
    nextStop source goal < bound := by
  unfold nextStop
  split <;> omega

end Action

/-- A call hands a cluster over from one position to another, to the model that the sequence has
there: every slot from its active instance to its own instance of that model. -/
def LedgerEntry.HandsOver (entry : LedgerEntry) (sequence : FidelitySequence) (cluster : Nat)
    (set : SlotSet) (source target : Nat) : Prop :=
  ∃ batch model, entry.call = .switchCores batch ∧ batch.cluster = cluster ∧
    batch.source = source ∧ batch.target = target ∧ sequence.model? target = some model ∧
    batch.HandsOver (set.placed source .idle) target model

/-- The calls of a trace hand a cluster over position by position, on the way from one to another. -/
def HandsOverAlong (sequence : FidelitySequence) (cluster : Nat) (set : SlotSet)
    (source goal : Nat) (entries : List LedgerEntry) : Prop :=
  ∀ (steps : Nat) (entry : LedgerEntry), entries[steps]? = some entry →
    entry.HandsOver sequence cluster set (stopAfter source goal steps)
      (stopAfter source goal (steps + 1))

/-- How the walk of a cluster ends: with which calls, with which halt, if any, and how the cluster
is left. -/
inductive Walks (sequence : FidelitySequence) (cluster : Nat) (set : SlotSet) (source goal : Nat) :
    List LedgerEntry → Except Halt Unit → SlotSet → Prop
  /-- A cluster that has arrived stays as it is, whatever its state. -/
  | stays (arrived : source = goal) : Walks sequence cluster set source goal [] (.ok ()) set
  /-- All hand-overs on the way succeed. -/
  | arrives {trace : List LedgerEntry} (away : source ≠ goal) (idle : set.state = .idle)
      (along : HandsOverAlong sequence cluster set source goal trace)
      (length_eq : trace.length = Nat.dist source goal)
      (answered : ∀ entry ∈ trace, entry.handedOver?.isSome) :
      Walks sequence cluster set source goal trace (.ok ()) (set.placed goal .idle)
  /-- The engine fails at one of the hand-overs, where the walk ends. -/
  | breaksDown {trace : List LedgerEntry} {last : LedgerEntry} {message : String}
      (idle : set.state = .idle)
      (along : HandsOverAlong sequence cluster set source goal (trace ++ [last]))
      (length_lt : trace.length < Nat.dist source goal)
      (answered : ∀ entry ∈ trace, entry.handedOver?.isSome)
      (failed : last.answer = .error message) :
      Walks sequence cluster set source goal (trace ++ [last])
        (.error (.failed (.engine message)))
        (set.placed (stopAfter source goal trace.length) .poisoned)
  /-- The cluster is poisoned or in flight. -/
  | refused {fault : SwitchFault} (away : source ≠ goal)
      (closed : set.state.fault? = some fault) :
      Walks sequence cluster set source goal [] (.error (.failed (.switch cluster fault))) set

section Walks

variable {sequence : FidelitySequence} {cluster source goal : Nat} {set final : SlotSet}
variable {calls : List LedgerEntry} {entry : LedgerEntry} {result : Except Halt Unit}

theorem handsOverAlong_nil : HandsOverAlong sequence cluster set source goal [] := by
  simp [HandsOverAlong]

theorem HandsOverAlong.cons (away : source ≠ goal)
    (first : entry.HandsOver sequence cluster set source (nextStop source goal))
    (rest : HandsOverAlong sequence cluster (set.placed (nextStop source goal) .idle)
      (nextStop source goal) goal calls)
    (bound : calls.length ≤ Nat.dist (nextStop source goal) goal) :
    HandsOverAlong sequence cluster set source goal (entry :: calls) := by
  intro steps other listed
  cases steps with
  | zero =>
      obtain rfl := Option.some.inj listed
      rwa [stopAfter_zero, stopAfter_one away]
  | succ steps =>
      rw [List.getElem?_cons_succ] at listed
      have inside : steps < calls.length := (List.getElem?_eq_some_iff.mp listed).1
      obtain ⟨batch, model, called, clusterEq, sourceEq, targetEq, found, hands⟩ :=
        rest steps other listed
      rw [SlotSet.placed_placed] at hands
      rw [← stopAfter_nextStop away (by omega), ← stopAfter_nextStop away (by omega)]
      exact ⟨batch, model, called, clusterEq, sourceEq, targetEq, found, hands⟩

theorem Walks.length_le (walks : Walks sequence cluster set source goal calls result final) :
    calls.length ≤ Nat.dist source goal := by
  cases walks with
  | stays | refused => exact Nat.zero_le _
  | arrives away idle along length_eq => exact Nat.le_of_eq length_eq
  | breaksDown idle along length_lt =>
      rw [List.length_append, List.length_singleton]
      exact length_lt

/-- A walk without a halt has arrived. -/
theorem Walks.active_eq (walks : Walks sequence cluster set source goal calls (.ok ()) final)
    (common : set.commonActive? = some source) : ∀ slot ∈ final.slots, slot.active = goal := by
  cases walks with
  | stays arrived => exact arrived ▸ (SlotSet.commonActive?_eq_some_iff.mp common).2
  | arrives => simp

/-- A first hand-over that fails is the whole walk. -/
theorem Walks.of_failed {message : String} (away : source ≠ goal) (idle : set.state = .idle)
    (first : entry.HandsOver sequence cluster set source (nextStop source goal))
    (failed : entry.answer = .error message) :
    Walks sequence cluster set source goal [entry] (.error (.failed (.engine message)))
      (set.placed source .poisoned) := by
  have along : HandsOverAlong sequence cluster set source goal ([] ++ [entry]) :=
    .cons away first handsOverAlong_nil (Nat.zero_le _)
  have walks := Walks.breaksDown idle along (Nat.dist_pos_of_ne away) (by simp) failed
  rwa [List.length_nil, stopAfter_zero] at walks

/-- A hand-over that succeeds, and the walk after it, are one walk. -/
theorem Walks.cons (away : source ≠ goal) (idle : set.state = .idle)
    (first : entry.HandsOver sequence cluster set source (nextStop source goal))
    (answered : entry.handedOver?.isSome)
    (rest : Walks sequence cluster (set.placed (nextStop source goal) .idle)
      (nextStop source goal) goal calls result final) :
    Walks sequence cluster set source goal (entry :: calls) result final := by
  have bound := rest.length_le
  have distance := dist_nextStop away
  cases rest with
  | stays arrived =>
      rw [arrived]
      refine .arrives away idle (.cons away first handsOverAlong_nil bound) ?_ (by simpa)
      rw [distance, arrived, Nat.dist_self]
      rfl
  | arrives still idleNext along length_eq answeredRest =>
      rw [SlotSet.placed_placed]
      refine .arrives away idle (.cons away first along bound) ?_
        (List.forall_mem_cons.mpr ⟨answered, answeredRest⟩)
      rw [distance, List.length_cons, length_eq]
  | breaksDown idleNext along length_lt answeredRest failed =>
      rename_i earlier last message
      rw [SlotSet.placed_placed, stopAfter_nextStop away (Nat.le_of_lt length_lt)]
      refine .breaksDown idle (.cons away first along bound) ?_
        (List.forall_mem_cons.mpr ⟨answered, answeredRest⟩) failed
      rw [distance, List.length_cons]
      omega
  | refused still closed => cases closed

end Walks

namespace Action

variable {σ : Type} {engine : Engine σ} {before after : Bench σ}
variable {machine : Topology} {sequence : FidelitySequence} {switching : SwitchOptions}
variable {fresh : Controller} {cluster source : Nat} {set : SlotSet}

theorem mayBegin_switchTo {controller : Controller} {target : Nat} {model : CoreModel}
    (found : controller.sets[cluster]? = some set) (idle : set.state = .idle)
    (common : set.commonActive? = some source)
    (model_eq : controller.sequence.model? target = some model)
    (near : source + 1 = target ∨ target + 1 = source) :
    controller.MayBegin cluster ((List.range set.slots.length).map fun slot => (slot, model)) set
      source target model where
  found := found
  idle := idle
  named := by simp [Controller.NamesEach, Function.comp_def]
  single := by simp
  source_eq := common
  goal_eq := FidelitySequence.position?_of_model? model_eq
  adjacent := near

/-- An idle cluster that is switched to the model of a position next to its own is handed over, or
the engine fails. -/
theorem exists_ends_switchTo (engine : Engine σ)
    (built : Controller.new machine sequence switching = .ok fresh)
    (follows : fresh.Follows before.controller) {target : Nat} {model : CoreModel}
    (found : before.controller.sets[cluster]? = some set) (idle : set.state = .idle)
    (common : set.commonActive? = some source)
    (model_eq : before.controller.sequence.model? target = some model)
    (near : source + 1 = target ∨ target + 1 = source) :
    ∃ entry result after, Ends (switchTo engine cluster model) before result after ∧
      after.ledger = before.ledger ++ [entry] ∧
      entry.HandsOver before.controller.sequence cluster set source target ∧
      ((entry.handedOver?.isSome ∧ result = .ok () ∧
          after.controller.sets[cluster]? = some (set.placed target .idle)) ∨
        ∃ message, entry.answer = .error message ∧
          result = .error (.failed (.engine message)) ∧
          after.controller.sets[cluster]? = some (set.placed source .poisoned)) := by
  have may := mayBegin_switchTo found idle common model_eq near
  obtain ⟨batch, batchEq, begun⟩ := may.begin_eq before.nextToken
  have clusterEq : batch.cluster = cluster := by rw [batchEq]
  have hands : ((before.taken batch).entry engine (.switchCores batch)).HandsOver
      before.controller.sequence cluster set source target := by
    refine ⟨batch, model, rfl, clusterEq, by rw [batchEq], by rw [batchEq], model_eq, ?_⟩
    rw [SlotSet.placed_of_idle idle common]
    exact follows.handsOver built may (by rw [batchEq])
  obtain ⟨result, after, ended⟩ := exists_ends (switchTo engine cluster model) before
  obtain ⟨error, refused, -⟩ | ⟨other, otherBegun, -, completed⟩ :=
    ends_switchSlots ((ends_switchTo_iff found).mp ended)
  · cases begun.symm.trans refused
  obtain ⟨rfl, -⟩ := Prod.mk.inj (Except.ok.inj (begun.symm.trans otherBegun))
  rw [← clusterEq] at found
  refine ⟨(before.taken batch).entry engine (.switchCores batch), result, after, ended, ?_⟩
  obtain ⟨answered, done, rfl⟩ | ⟨message, answered, failed, rfl⟩ := completed
  · refine ⟨rfl, hands, .inl ⟨?_, done, ?_⟩⟩
    · have entered : ((before.taken batch).entry engine (.switchCores batch)).handedOver? =
          some batch := Bench.handedOver?_entry_of_ok answered
      rw [entered]
      rfl
    · rw [← clusterEq, Controller.committed, Controller.getElem?_modifySet_self _ found, batchEq]
      rfl
  · refine ⟨rfl, hands, .inr ⟨message, answered, failed, ?_⟩⟩
    rw [← clusterEq, Controller.aborted, Controller.getElem?_modifySet_self _ found,
      SlotSet.placed_of_common common]

theorem ends_switchTo_of_fault (engine : Engine σ) (target : CoreModel) {fault : SwitchFault}
    (found : before.controller.sets[cluster]? = some set)
    (closed : set.state.fault? = some fault) :
    Ends (switchTo engine cluster target) before (.error (.failed (.switch cluster fault)))
      before := by
  obtain ⟨result, after, ended⟩ := exists_ends (switchTo engine cluster target) before
  obtain ⟨error, refused, rfl, rfl⟩ | ⟨batch, begun, -⟩ :=
    ends_switchSlots ((ends_switchTo_iff found).mp ended)
  · rwa [Except.error.inj (refused.symm.trans (Controller.begin_of_fault found closed))] at ended
  · cases begun.symm.trans (Controller.begin_of_fault found closed)

theorem ends_walk_of_arrived {goal rounds done : Nat} {fallback : CoreModel}
    (found : before.controller.sets[cluster]? = some set)
    (common : set.commonActive? = some goal) :
    Ends (walk engine cluster goal fallback (rounds + 1) done) before (.ok done) before := by
  rw [walk, ends_bind_iff]
  refine .inr ⟨set, before, ends_slotSet_iff.mpr ⟨?_, rfl⟩, ?_⟩
  · rw [Controller.set_eq_ok_iff.mpr found, Except.mapError_ok]
  · simp only [common, ↓reduceIte]
    exact ends_pure_iff.mpr ⟨rfl, rfl⟩

/-- A cluster that has not arrived is switched to its next stop, and walks on. -/
theorem ends_walk_onward {goal rounds done : Nat} {fallback model : CoreModel}
    (found : before.controller.sets[cluster]? = some set)
    (common : set.commonActive? = some source) (away : source ≠ goal)
    (model_eq : before.controller.sequence.model? (nextStop source goal) = some model)
    {result : Except Halt Nat}
    (onward : Ends (do
      switchTo engine cluster model
      walk engine cluster goal fallback rounds (done + 1)) before result after) :
    Ends (walk engine cluster goal fallback (rounds + 1) done) before result after := by
  rw [walk, ends_bind_iff]
  refine .inr ⟨set, before, ends_slotSet_iff.mpr ⟨?_, rfl⟩, ?_⟩
  · rw [Controller.set_eq_ok_iff.mpr found, Except.mapError_ok]
  · simp only [common, away, ↓reduceIte]
    refine ends_get_bind_iff.mpr ?_
    rwa [model_eq]

/-- A switch that halts is the end of the walk. -/
theorem ends_walk_of_halted {goal rounds done : Nat} {fallback model : CoreModel} {halt : Halt}
    (found : before.controller.sets[cluster]? = some set)
    (common : set.commonActive? = some source) (away : source ≠ goal)
    (model_eq : before.controller.sequence.model? (nextStop source goal) = some model)
    (halted : Ends (switchTo engine cluster model) before (.error halt) after)
    (left : 0 < rounds) :
    Ends (walk engine cluster goal fallback rounds done) before (.error halt) after := by
  obtain ⟨rounds, rfl⟩ := Nat.exists_eq_succ_of_ne_zero left.ne'
  exact ends_walk_onward found common away model_eq
    (ends_bind_iff.mpr (.inl ⟨halt, rfl, halted⟩))

/-- The walk of a cluster ends in one of the four ways, however many rounds more it may have than
there are positions on its way, and whatever it may fall back on. -/
theorem exists_ends_walk (engine : Engine σ)
    (built : Controller.new machine sequence switching = .ok fresh)
    (follows : fresh.Follows before.controller) {goal : Nat}
    (found : before.controller.sets[cluster]? = some set)
    (common : set.commonActive? = some source) (inside : goal < before.controller.sequence.length) :
    ∃ entries result after final,
      (∀ rounds done fallback, Nat.dist source goal < rounds →
        Ends (walk engine cluster goal fallback rounds done) before
          (result.map fun _ => done + Nat.dist source goal) after) ∧
      after.ledger = before.ledger ++ entries ∧
      after.controller.sets[cluster]? = some final ∧
      Walks before.controller.sequence cluster set source goal entries result final := by
  induction distance : Nat.dist source goal generalizing before set source with
  | zero =>
      obtain rfl := Nat.eq_of_dist_eq_zero distance
      refine ⟨[], .ok (), before, set, fun rounds done fallback enough => ?_, by simp, found,
        .stays rfl⟩
      obtain ⟨rounds, rfl⟩ := Nat.exists_eq_add_of_lt enough
      exact ends_walk_of_arrived found common
  -- The way is one position shorter after each hand-over, whatever rounds are left.
  | succ rest ih =>
      have away : source ≠ goal := by
        rintro rfl
        rw [Nat.dist_self] at distance
        cases distance
      have sourceInside : source < before.controller.sequence.length :=
        follows.sequence_eq ▸ follows.lt_of_common found common
      obtain ⟨model, model_eq⟩ :=
        FidelitySequence.exists_model?_of_lt (nextStop_lt sourceInside inside)
      cases closed : set.state.fault? with
      | some fault =>
          have refused := ends_switchTo_of_fault engine model found closed
          exact ⟨[], _, before, set, fun rounds done fallback enough =>
            ends_walk_of_halted found common away model_eq refused (Nat.zero_lt_of_lt enough),
            by simp, found, .refused away closed⟩
      | none =>
          have idle := SetState.fault?_eq_none_iff.mp closed
          obtain ⟨entry, switched, middle, ended, ledgerEq, hands, completed⟩ :=
            exists_ends_switchTo engine built follows found idle common model_eq
              (nextStop_adjacent away)
          obtain ⟨answered, rfl, foundNext⟩ | ⟨message, failed, rfl, foundLast⟩ := completed
          · have steps : Bench.Steps engine (fun _ => True) before middle :=
              (stepwise_switchTo cluster model (fun _ _ => trivial) ended).1
            have staffed := (SlotSet.commonActive?_eq_some_iff.mp common).1
            rw [← steps.sequence_eq] at inside
            obtain ⟨entries, result, after, final, walked, more, foundFinal, walks⟩ :=
              ih (steps.follows follows) foundNext
                (SlotSet.commonActive?_placed _ .idle staffed) inside
                (by rw [dist_nextStop away] at distance; omega)
            rw [steps.sequence_eq] at walks
            refine ⟨entry :: entries, result, after, final, fun rounds done fallback enough => ?_,
              by rw [more, ledgerEq, List.append_assoc]; rfl, foundFinal,
              walks.cons away idle hands answered⟩
            obtain ⟨rounds, rfl⟩ := Nat.exists_eq_add_of_lt enough
            have onward := walked (rest + 1 + rounds) (done + 1) fallback (by omega)
            rw [Nat.add_assoc done, Nat.add_comm 1] at onward
            exact ends_walk_onward found common away model_eq
              (ends_bind_iff.mpr (.inr ⟨(), middle, ended, onward⟩))
          · exact ⟨[entry], _, middle, _, fun rounds done fallback enough =>
              ends_walk_of_halted found common away model_eq ended (Nat.zero_lt_of_lt enough),
              ledgerEq, foundLast, .of_failed away idle hands failed⟩

theorem exists_ends_stepToward (engine : Engine σ)
    (built : Controller.new machine sequence switching = .ok fresh)
    (follows : fresh.Follows before.controller) {goal : Nat} {target : CoreModel}
    (found : before.controller.sets[cluster]? = some set)
    (common : set.commonActive? = some source)
    (goal_eq : before.controller.sequence.position? target = some goal) :
    ∃ calls result after final,
      Ends (stepToward engine cluster target) before (result.map fun _ => Nat.dist source goal)
        after ∧
      after.ledger = before.ledger ++ calls ∧
      after.controller.sets[cluster]? = some final ∧
      Walks before.controller.sequence cluster set source goal calls result final ∧
      ∀ rounds fallback, Nat.dist source goal < rounds →
        Ends (walk engine cluster goal fallback rounds 0) before
          (result.map fun _ => Nat.dist source goal) after := by
  have inside := FidelitySequence.lt_length_of_position? goal_eq
  have sourceInside : source < before.controller.sequence.length :=
    follows.sequence_eq ▸ follows.lt_of_common found common
  obtain ⟨calls, result, after, final, walked, ledgerEq, foundFinal, walks⟩ :=
    exists_ends_walk engine built follows found common inside
  have enough : Nat.dist source goal < before.controller.sequence.length + 1 := by
    unfold Nat.dist
    omega
  have ended : ∀ rounds fallback, Nat.dist source goal < rounds →
      Ends (walk engine cluster goal fallback rounds 0) before
        (result.map fun _ => Nat.dist source goal) after := by
    intro rounds fallback many
    simpa using walked rounds 0 fallback many
  refine ⟨calls, result, after, final, ?_, ledgerEq, foundFinal, walks, ended⟩
  rw [stepToward, ends_get_bind_iff]
  simp only [goal_eq]
  exact ended _ target enough

theorem getElem?_sets_of_stepToward {target : CoreModel} {result : Except Halt Nat} {other : Nat}
    (ended : Ends (stepToward engine cluster target) before result after) (apart : other ≠ cluster) :
    after.controller.sets[other]? = before.controller.sets[other]? := by
  have steps : Bench.Steps engine (Call.IsWithin cluster) before after :=
    (stepwise_stepToward cluster target Call.isWithin_switchCores ended).1
  exact steps.getElem?_sets_of_isWithin apart

end Action

namespace Registry

/-- Whatever its controller has been asked for before, a cluster walks to a fidelity by one
hand-over for each position on the way, and by no more than those.  If all of them succeed their
number is given and the cluster is on the fidelity; if one fails the cluster is poisoned on the
position before it.  A cluster that is poisoned or in flight stays where it is, which is no error if
that is on the fidelity.  No other cluster is touched, more rounds make no difference, and what a
walk might fall back on is never used. -/
theorem Reaches.walks_position_by_position {σ : Type} {start registry : Registry}
    {events : List Event} {number : Nat} {machine : Topology} {sequence : FidelitySequence}
    {switching : SwitchOptions} {fresh controller : Controller} (untouched : start.Opened)
    (first : start.controllers[number]? = some fresh)
    (built : Controller.new machine sequence switching = .ok fresh)
    (staffed : ∀ cluster ∈ machine.clusters, cluster.cores ≠ [])
    (reached : start.Reaches events registry)
    (found : registry.controllers[number]? = some controller) {cluster : Nat} {set : SlotSet}
    (there : controller.sets[cluster]? = some set) {target : CoreModel}
    (known : target ∈ controller.sequence.models) (engine : Engine σ) (state : σ) :
    ∃ source goal calls result after final, set.commonActive? = some source ∧
      controller.sequence.position? target = some goal ∧
      Ends (stepToward engine cluster target) (registry.bench controller state)
        (result.map fun _ => Nat.dist source goal) after ∧
      after.ledger = calls ∧ calls.length ≤ Nat.dist source goal ∧
      after.controller.sets[cluster]? = some final ∧
      Walks controller.sequence cluster set source goal calls result final ∧
      (result = .ok () → ∀ slot ∈ final.slots,
        slot.active = goal ∧ slot.activeInstance.model = target) ∧
      (∀ other ≠ cluster, after.controller.sets[other]? = controller.sets[other]?) ∧
      ∀ rounds fallback, Nat.dist source goal < rounds →
        Ends (walk engine cluster goal fallback rounds 0) (registry.bench controller state)
          (result.map fun _ => Nat.dist source goal) after := by
  have follows := reached.follows_of_found untouched first built found
  obtain ⟨source, -, common⟩ :=
    follows.exists_common (Controller.slots_ne_nil_of_new built staffed) there
  obtain ⟨goal, goal_eq⟩ := Option.isSome_iff_exists.mp (List.isSome_idxOf?.mpr known)
  have follows' : fresh.Follows (registry.bench controller state).controller := follows
  obtain ⟨calls, result, after, final, ended, ledgerEq, foundFinal, walks, rounds⟩ :=
    exists_ends_stepToward engine built follows' there common goal_eq
  refine ⟨source, goal, calls, result, after, final, common, goal_eq, ended, ledgerEq,
    walks.length_le, foundFinal, walks, ?_, fun other => getElem?_sets_of_stepToward ended, rounds⟩
  rintro rfl slot member
  have active := walks.active_eq common slot member
  have steps : Bench.Steps engine (fun _ => True) (registry.bench controller state) after :=
    (stepwise_stepToward cluster target (fun _ _ => trivial) ended).1
  refine ⟨active, (steps.follows follows).model_activeInstance built foundFinal member ?_⟩
  rw [steps.sequence_eq, active]
  exact goal_eq

/-- A cluster on the first of three fidelities breaks down on the second of its two steps. -/
theorem walks_position_by_position_dual :
    ∃ set calls final, Controller.dual.sets[0]? = some set ∧ calls.length = 2 ∧
      Walks .standard 0 set 0 2 calls (.error (.failed (.engine "no state to hand over"))) final := by
  obtain ⟨set, there, common⟩ : ∃ set, Controller.dual.sets[0]? = some set ∧
      set.commonActive? = some 0 := ⟨_, rfl, rfl⟩
  have first : duals.controllers[0]? = some .dual := rfl
  have known : CoreModel.outOfOrder ∈ Controller.dual.sequence.models := by decide
  obtain ⟨stopped, broken, twice⟩ : ∃ after,
      Ends (stepToward .tiring 0 .outOfOrder) (duals.bench .dual 1)
        (.error (.failed (.engine "no state to hand over"))) after ∧ after.ledger.length = 2 :=
    ⟨_, rfl, rfl⟩
  obtain ⟨source, goal, calls, result, after, final, commonEq, goalEq, ended, ledgerEq, -, -, walks,
      -⟩ := Reaches.start.walks_position_by_position opened_duals first Controller.new_dual
        (by decide) first there known .tiring 1
  obtain rfl := Option.some.inj (common.symm.trans commonEq)
  have third : Controller.dual.sequence.position? .outOfOrder = some 2 := rfl
  obtain rfl := Option.some.inj (third.symm.trans goalEq)
  obtain ⟨failed, rfl⟩ := broken.unique ended
  cases result with
  | ok value => cases failed
  | error halt =>
      obtain rfl := Except.error.inj failed
      exact ⟨set, calls, final, there, by rw [← ledgerEq, twice], walks⟩

end Registry

end Mainboard
