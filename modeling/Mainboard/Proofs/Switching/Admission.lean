import Mainboard.Proofs.Conditions
import Mainboard.Proofs.Switching.Positions
import Mathlib.Data.Finset.Card
import Mathlib.Data.List.Perm.Subperm

/-!
# Which batches may begin

A batch may begin if its cluster is idle and the requests name every slot of it
once, all with one target that is next to the fidelity of the cluster.  In which
order slots are named does not matter.  The conditions are checked in a fixed
order, and a batch that may not begin is refused for the first that fails.
-/

namespace Mainboard

namespace Controller

section Coverage

variable {slots : Nat} {requests : List (Nat × CoreModel)}

/-- How many distinct slots requests name. -/
def distinctSlots (requests : List (Nat × CoreModel)) : Nat := (requests.map (·.1)).toFinset.card

/-- Requests name each of some slots once, in whatever order. -/
def NamesEach (slots : Nat) (requests : List (Nat × CoreModel)) : Prop :=
  (requests.map (·.1)).Perm (List.range slots)

/-- As long as no slot is unknown, covered slots are the distinct ones. -/
theorem covered_eq (known : ∀ request ∈ requests, request.1 < slots) :
    covered slots requests = distinctSlots requests := by
  rw [covered, List.countP_eq_length_filter, distinctSlots,
    ← List.toFinset_card_of_nodup (List.nodup_range.filter _)]
  congr 1
  ext slot
  simp only [List.mem_toFinset, List.mem_filter, List.mem_range, List.any_eq_true,
    decide_eq_true_eq, List.mem_map]
  constructor
  · rintro ⟨-, request, member, same⟩
    exact ⟨request, member, same⟩
  · rintro ⟨request, member, rfl⟩
    exact ⟨known request member, request, member, rfl⟩

/-- Counting the distinct slots and the requests tells whether each slot is named once. -/
theorem namesEach_iff (known : ∀ request ∈ requests, request.1 < slots) :
    NamesEach slots requests ↔ distinctSlots requests = slots ∧ requests.length = slots := by
  rw [NamesEach, distinctSlots]
  constructor
  · intro perm
    have distinct : (requests.map (·.1)).Nodup := perm.nodup_iff.mpr List.nodup_range
    have length := perm.length_eq
    rw [List.length_map, List.length_range] at length
    rw [List.toFinset_card_of_nodup distinct, List.length_map]
    exact ⟨length, length⟩
  · rintro ⟨distinct, length⟩
    have unrepeated : (requests.map (·.1)).Nodup := by
      apply List.dedup_eq_self.mp
      apply (List.dedup_sublist _).eq_of_length
      rw [← List.card_toFinset, distinct, List.length_map, length]
    have within : requests.map (·.1) ⊆ List.range slots := by
      intro slot member
      obtain ⟨request, among, rfl⟩ := List.mem_map.mp member
      exact List.mem_range.mpr (known request among)
    refine (List.subperm_of_subset unrepeated within).perm_of_length_le ?_
    rw [List.length_range, List.length_map, length]

end Coverage

/-- What is asked of the one target of a batch. -/
def targetAdmission (controller : Controller) (cluster : Nat) (requests : List (Nat × CoreModel))
    (target : CoreModel) : List Condition :=
  [⟨∀ request ∈ requests, request.2 = target, .switch cluster .mixedTargets⟩,
    ⟨target ∈ controller.sequence.models, .switch cluster (.notInSequence target)⟩,
    ⟨∃ source goal, controller.position? cluster = some source ∧
        controller.sequence.position? target = some goal ∧
        (source + 1 = goal ∨ goal + 1 = source),
      .switch cluster
        (.notAdjacent ((controller.activeFidelity? cluster).getD .atomic) target)⟩]

/-- What is asked for before a batch begins on a cluster, in order, each with the error of a batch
that does not meet it. -/
def admission (controller : Controller) (cluster : Nat) (set : SlotSet)
    (requests : List (Nat × CoreModel)) : List Condition :=
  [⟨set.isPoisoned = false, .switch cluster .clusterPoisoned⟩,
    ⟨set.isInFlight = false, .switch cluster .switchInFlight⟩] ++
  ((requests.map fun request =>
    ⟨request.1 < set.slots.length, .switch cluster (.unknownSlot request.1)⟩) ++
  ⟨requests ≠ [] ∧ NamesEach set.slots.length requests,
    .switch cluster (.partialBatch (distinctSlots requests) set.slots.length)⟩ ::
  (requests.take 1).flatMap fun first => controller.targetAdmission cluster requests first.2)

variable {controller : Controller} {cluster : Nat} {set : SlotSet}
variable {requests : List (Nat × CoreModel)}

/-- The first unknown slot is the reason to refuse a batch. -/
theorem firstViolated_of_find? {slots : Nat} {request : Nat × CoreModel}
    (unknown : requests.find? (fun request => slots ≤ request.1) = some request) :
    FirstViolated
      (requests.map fun request => ⟨request.1 < slots, .switch cluster (.unknownSlot request.1)⟩)
      (.switch cluster (.unknownSlot request.1)) := by
  obtain ⟨outside, before, after, rfl, known⟩ := List.find?_eq_some_iff_append.mp unknown
  rw [List.map_append, List.map_cons]
  refine .append_left ?_ (.here ?_)
  · intro condition listed
    obtain ⟨earlier, member, rfl⟩ := List.mem_map.mp listed
    simpa using known earlier member
  · simpa using outside

/-- What is planned for the target of a batch that names the slots of a cluster. -/
def planTarget (controller : Controller) (set : SlotSet) (others : List (Nat × CoreModel))
    (model : CoreModel) : Except SwitchFault (Nat × Nat) := do
  if others.any (·.2 ≠ model) then throw .mixedTargets
  let some target := controller.sequence.position? model | throw (.notInSequence model)
  let some source := set.commonActive? | throw .mixedFidelity
  if !adjacent source target then
    throw (.notAdjacent ((controller.sequence.model? source).getD .atomic) model)
  return (source, target)

theorem obeys_planTarget {slot source : Nat} {target : CoreModel}
    {others : List (Nat × CoreModel)} (found : controller.sets[cluster]? = some set)
    (common : set.commonActive? = some source) :
    Obeys (controller.targetAdmission cluster ((slot, target) :: others) target)
      ((controller.planTarget set others target).mapError (.switch cluster)) := by
  have views : controller.position? cluster = some source := (position?_of_found found).trans common
  unfold planTarget
  simp only [bind, Except.bind, pure, Except.pure, throw, throwThe, MonadExceptOf.throw]
  split
  next mixed =>
    refine .error (.here fun same => ?_)
    obtain ⟨other, member, apart⟩ := List.any_eq_true.mp mixed
    exact of_decide_eq_true apart (same other (List.mem_cons_of_mem _ member))
  next single =>
  refine .cons (by simpa using single) ?_
  split
  next goal position =>
    refine .cons (List.isSome_idxOf?.mp (Option.isSome_of_eq_some position)) ?_
    rw [common]
    dsimp only
    split
    next far =>
      have fidelity : controller.activeFidelity? cluster = controller.sequence.model? source := by
        rw [activeFidelity?_eq, views, Option.bind_some]
      rw [← fidelity]
      refine .error (.here ?_)
      rintro ⟨other, stop, placed, reached, near⟩
      obtain rfl := Option.some.inj (views.symm.trans placed)
      obtain rfl := Option.some.inj (position.symm.trans reached)
      rw [adjacent_iff.mpr near] at far
      cases far
    next near =>
      refine .cons ⟨source, goal, views, position, ?_⟩ (.pure _)
      exact adjacent_iff.mp (by simpa using near)
  next nowhere =>
    refine .error (.here fun listed => ?_)
    obtain ⟨goal, position⟩ := Option.isSome_iff_exists.mp (List.isSome_idxOf?.mpr listed)
    exact nowhere goal position

/-- What is planned obeys what is asked for, if the slots of the cluster are together. -/
theorem obeys_plan (found : controller.sets[cluster]? = some set)
    (together : set.slots ≠ [] → ∃ position, set.commonActive? = some position) :
    Obeys (controller.admission cluster set requests)
      ((controller.plan set requests).mapError (.switch cluster)) := by
  unfold plan
  simp only [bind, Except.bind, pure, Except.pure, throw, throwThe, MonadExceptOf.throw]
  split
  next poisoned => exact .error (.here (by simp [SlotSet.isPoisoned, poisoned]))
  next token flying =>
    exact .error (.later (by simp [SlotSet.isPoisoned, flying])
      (.here (by simp [SlotSet.isInFlight, flying])))
  next idle =>
  refine .append (by simp [SlotSet.isPoisoned, SlotSet.isInFlight, idle]) ?_
  split
  next slot model unknown =>
    exact .error (.append_right (firstViolated_of_find? unknown) _)
  next noUnknown =>
  have known : ∀ request ∈ requests, request.1 < set.slots.length := by
    intro request member
    have inside := List.find?_eq_none.mp (Option.eq_none_iff_forall_ne_some.mpr
      fun request unknown => noUnknown request.1 request.2 unknown) request member
    simpa using inside
  refine .append (List.forall_mem_map.mpr known) ?_
  rw [covered_eq known]
  split
  next uncovered =>
    refine .error (.here ?_)
    rintro ⟨-, each⟩
    obtain ⟨distinct, length⟩ := (namesEach_iff known).mp each
    exact uncovered.elim (absurd distinct) (absurd length)
  next counted =>
  have each : NamesEach set.slots.length requests := by
    simpa [namesEach_iff known] using counted
  split
  next => exact .error (.here (by simp))
  next _ _ slot target rest =>
  obtain ⟨source, common⟩ := together (List.ne_nil_of_length_pos
    (Nat.zero_lt_of_lt (known _ List.mem_cons_self)))
  simp only [List.take_succ_cons, List.take_zero, List.flatMap_cons, List.flatMap_nil,
    List.append_nil]
  exact .cons ⟨List.cons_ne_nil _ _, each⟩ (obeys_planTarget found common)

/-- A batch may begin: its cluster is there and idle, and the requests name every slot once, all
with one target, whose position is next to that of the slots. -/
structure MayBegin (controller : Controller) (cluster : Nat) (requests : List (Nat × CoreModel))
    (set : SlotSet) (source goal : Nat) (target : CoreModel) : Prop where
  found : controller.sets[cluster]? = some set
  idle : set.state = .idle
  named : NamesEach set.slots.length requests
  single : ∀ request ∈ requests, request.2 = target
  source_eq : set.commonActive? = some source
  goal_eq : controller.sequence.position? target = some goal
  adjacent : source + 1 = goal ∨ goal + 1 = source

section Begin

variable {source goal token : Nat} {target : CoreModel}

/-- The order in which slots are named does not matter. -/
theorem MayBegin.of_perm {others : List (Nat × CoreModel)}
    (may : controller.MayBegin cluster requests set source goal target)
    (perm : others.Perm requests) :
    controller.MayBegin cluster others set source goal target :=
  { may with
    named := (perm.map _).trans may.named
    single := fun request member => may.single request (perm.mem_iff.mp member) }

theorem MayBegin.requests_ne_nil
    (may : controller.MayBegin cluster requests set source goal target) : requests ≠ [] := by
  rintro rfl
  have none := may.named.length_eq
  rw [List.map_nil, List.length_nil, List.length_range] at none
  have empty := List.length_eq_zero_iff.mp none.symm
  exact (SlotSet.commonActive?_eq_some_iff.mp may.source_eq).1 empty

theorem targetAdmission_holds_iff :
    (∀ condition ∈ controller.targetAdmission cluster requests target, condition.holds) ↔
      (∀ request ∈ requests, request.2 = target) ∧
        ∃ source goal, controller.position? cluster = some source ∧
          controller.sequence.position? target = some goal ∧
          (source + 1 = goal ∨ goal + 1 = source) := by
  simp only [targetAdmission, List.forall_mem_cons, List.not_mem_nil, false_implies, implies_true,
    and_true]
  refine and_congr_right fun _ => and_iff_right_of_imp ?_
  rintro ⟨source, goal, -, position, -⟩
  exact List.isSome_idxOf?.mp (Option.isSome_of_eq_some position)

/-- What is asked for before a batch begins is all that it takes. -/
theorem admission_holds_iff (found : controller.sets[cluster]? = some set) :
    (∀ condition ∈ controller.admission cluster set requests, condition.holds) ↔
      ∃ source goal target, controller.MayBegin cluster requests set source goal target := by
  have views : controller.position? cluster = set.commonActive? := position?_of_found found
  have idle_iff : (set.isPoisoned = false ∧ set.isInFlight = false) ↔ set.state = .idle := by
    cases state : set.state <;> simp [SlotSet.isPoisoned, SlotSet.isInFlight, state]
  simp only [admission, List.forall_mem_append, List.forall_mem_map, List.forall_mem_cons,
    List.not_mem_nil, false_implies, implies_true, and_true, idle_iff]
  constructor
  · rintro ⟨idle, -, ⟨named, each⟩, targets⟩
    obtain ⟨request, rest, rfl⟩ := List.exists_cons_of_ne_nil named
    rw [List.take_succ_cons, List.take_zero, List.flatMap_singleton,
      targetAdmission_holds_iff] at targets
    obtain ⟨single, source, goal, placed, position, near⟩ := targets
    exact ⟨source, goal, request.2, found, idle, each, single, views.symm.trans placed, position,
      near⟩
  · rintro ⟨source, goal, target, may⟩
    obtain ⟨request, rest, rfl⟩ := List.exists_cons_of_ne_nil may.requests_ne_nil
    refine ⟨may.idle, fun other member => ?_, ⟨may.requests_ne_nil, may.named⟩, ?_⟩
    · exact List.mem_range.mp (may.named.mem_iff.mp (List.mem_map_of_mem member))
    · obtain rfl := may.single request List.mem_cons_self
      rw [List.take_succ_cons, List.take_zero, List.flatMap_singleton, targetAdmission_holds_iff]
      exact ⟨may.single, source, goal, views.trans may.source_eq, may.goal_eq, may.adjacent⟩

/-- A batch begins by what is planned for it. -/
theorem begin_of_found (found : controller.sets[cluster]? = some set) :
    controller.begin token cluster requests =
      ((controller.plan set requests).mapError (.switch cluster)).map fun positions =>
        ({ token, cluster, source := positions.1, target := positions.2
           pairs := pairs set positions.1 positions.2 },
          controller.modifySet cluster fun set => { set with state := .inFlight token }) := by
  rw [Controller.begin, set_eq_ok_iff.mpr found]
  change (controller.plan set requests).mapError (Error.switch cluster) >>= _ = _
  cases controller.plan set requests <;> rfl

theorem begin_of_missing (missing : controller.sets[cluster]? = none) :
    controller.begin token cluster requests = .error (.invalid (.noCluster cluster)) := by
  rw [Controller.begin, set_eq_error_iff.mpr ⟨missing, rfl⟩]
  rfl

/-- The batch that begins depends on the cluster and on the target only. -/
theorem MayBegin.begin_eq (may : controller.MayBegin cluster requests set source goal target)
    (token : Nat) :
    ∃ batch : Batch, batch = ⟨token, cluster, source, goal, pairs set source goal⟩ ∧
      controller.begin token cluster requests = .ok (batch, controller.held batch) := by
  have together : set.slots ≠ [] → ∃ position, set.commonActive? = some position :=
    fun _ => ⟨source, may.source_eq⟩
  have obeys : Obeys (controller.admission cluster set requests)
      ((controller.plan set requests).mapError (.switch cluster)) :=
    obeys_plan may.found together
  obtain ⟨⟨start, stop⟩, planned⟩ :=
    obeys.exists_ok_iff.mpr ((admission_holds_iff may.found).mpr ⟨source, goal, target, may⟩)
  obtain ⟨-, common, -, slot, model, rest, rfl, position⟩ :=
    plan_eq_ok (Except.mapError_eq_ok_iff.mp planned)
  obtain rfl := Option.some.inj (may.source_eq.symm.trans common)
  obtain rfl : model = target := may.single (slot, model) List.mem_cons_self
  obtain rfl := Option.some.inj (may.goal_eq.symm.trans position)
  refine ⟨_, rfl, ?_⟩
  rw [begin_of_found may.found, planned]
  rfl

end Begin

end Controller

/-- A batch hands over the slots of a cluster in ascending order, each from its active instance to
its own instance of a fidelity. -/
structure Batch.HandsOver (batch : Batch) (set : SlotSet) (goal : Nat) (target : CoreModel) :
    Prop where
  slots_eq : batch.pairs.map (·.slot) = List.range set.slots.length
  pair : ∀ {index : Nat} {slot : Slot}, set.slots[index]? = some slot →
    ∃ pair, batch.pairs[index]? = some pair ∧ pair.outgoing = slot.activeInstance ∧
      slot.instances[goal]? = some pair.incoming ∧ pair.incoming.model = target

namespace Controller.Follows

variable {machine : Topology} {sequence : FidelitySequence} {switching : SwitchOptions}
variable {fresh controller : Controller} {cluster : Nat} {set : SlotSet}

/-- The slots of a cluster that has some are together. -/
theorem exists_common_of_slots (follows : fresh.Follows controller)
    (found : controller.sets[cluster]? = some set) (staffed : set.slots ≠ []) :
    ∃ position, set.commonActive? = some position := by
  obtain ⟨origin, -, position, -, state, rfl⟩ := follows.exists_placed found
  exact ⟨position, SlotSet.commonActive?_placed position state (by simpa using staffed)⟩

theorem isSome_activeFidelity? (follows : fresh.Follows controller)
    (found : controller.sets[cluster]? = some set) (staffed : set.slots ≠ []) :
    (controller.activeFidelity? cluster).isSome := by
  obtain ⟨position, common⟩ := follows.exists_common_of_slots found staffed
  rw [activeFidelity?_eq, position?_of_found found, common, Option.bind_some,
    FidelitySequence.isSome_model?_iff, follows.sequence_eq]
  exact follows.lt_of_common found common

theorem handsOver (follows : fresh.Follows controller)
    (built : Controller.new machine sequence switching = .ok fresh)
    {requests : List (Nat × CoreModel)} {source goal : Nat} {target : CoreModel}
    (may : controller.MayBegin cluster requests set source goal target) {batch : Batch}
    (pairs_eq : batch.pairs = pairs set source goal) : batch.HandsOver set goal target where
  slots_eq := by
    rw [pairs_eq, Controller.pairs]
    apply List.ext_getElem?
    intro index
    by_cases inside : index < set.slots.length
    · simp [inside]
    · simp [inside]
  pair := by
    intro index slot listed
    have inside := List.mem_of_getElem? listed
    have active := (SlotSet.commonActive?_eq_some_iff.mp may.source_eq).2 slot inside
    refine ⟨⟨index, slot.instanceAt source, slot.instanceAt goal⟩, ?_, ?_, ?_⟩
    · rw [pairs_eq, Controller.pairs, List.getElem?_mapIdx, listed]
      rfl
    · rw [Slot.activeInstance, active]
    · obtain ⟨origin, first, position, -, state, rfl⟩ := follows.exists_placed may.found
      obtain ⟨made, original, rfl⟩ := List.mem_map.mp inside
      have bound := FidelitySequence.lt_length_of_position? may.goal_eq
      have goal_eq := FidelitySequence.model?_of_position? may.goal_eq
      rw [follows.sequence_eq] at bound goal_eq
      obtain ⟨stored, model⟩ := model?_of_new built (List.mem_of_getElem? first) original bound
      exact ⟨stored, Option.some.inj (model.symm.trans goal_eq)⟩

/-- What begins on a cluster that is there obeys what is asked for. -/
theorem obeys_begin (follows : fresh.Follows controller)
    (found : controller.sets[cluster]? = some set) (token : Nat)
    (requests : List (Nat × CoreModel)) :
    Obeys (controller.admission cluster set requests)
      (controller.begin token cluster requests) := by
  rw [begin_of_found found]
  exact (obeys_plan found (follows.exists_common_of_slots found)).map _

end Controller.Follows

namespace Registry

theorem serve_begin_of_ok {registry : Registry} {number : Nat} {controller : Controller}
    (found : registry.controllers[number]? = some controller) {cluster : Nat}
    {requests : List (Nat × CoreModel)} {batch : Batch}
    (begun : controller.begin registry.nextToken cluster requests =
      .ok (batch, controller.held batch)) :
    registry.serve number (.begin cluster requests) =
      some (⟨number, .begin cluster requests, .ok (), []⟩,
        registry.add number controller batch) := by
  rw [serve, found, Option.bind_some, answer, begun]
  rfl

theorem serve_begin_of_error {registry : Registry} {number : Nat} {controller : Controller}
    (found : registry.controllers[number]? = some controller) {cluster : Nat}
    {requests : List (Nat × CoreModel)} {error : Error}
    (refused : controller.begin registry.nextToken cluster requests = .error error) :
    registry.serve number (.begin cluster requests) =
      some (⟨number, .begin cluster requests, .error (.failed error), []⟩, registry) := by
  rw [serve, found, Option.bind_some, answer, refused]

/-- Whatever a controller has been asked for before, a batch begins if and only if it may.  Then
the cluster is in flight and nothing else has changed, and the batch hands over all slots in
ascending order, in whatever order they were named.  Otherwise nothing changes, and the error is
that of a cluster which is not there, or of the first condition that does not hold. -/
theorem Reaches.begins_iff_mayBegin {start registry : Registry} {events : List Event}
    {number : Nat} {machine : Topology} {sequence : FidelitySequence} {switching : SwitchOptions}
    {fresh controller : Controller} (untouched : start.Opened)
    (first : start.controllers[number]? = some fresh)
    (built : Controller.new machine sequence switching = .ok fresh)
    (reached : start.Reaches events registry)
    (found : registry.controllers[number]? = some controller) (cluster : Nat)
    (requests : List (Nat × CoreModel)) :
    ∃ event next, registry.serve number (.begin cluster requests) = some (event, next) ∧
      (event.reply = .ok () ↔
        ∃ set source goal target, controller.MayBegin cluster requests set source goal target) ∧
      (∀ set source goal target, controller.MayBegin cluster requests set source goal target →
        ∃ batch : Batch, batch.cluster = cluster ∧ batch.token = registry.nextToken ∧
          next = registry.add number controller batch ∧ batch.HandsOver set goal target ∧
          ∀ others, others.Perm requests →
            ∃ other, registry.serve number (.begin cluster others) = some (other, next)) ∧
      ∀ halt, event.reply = .error halt → next = registry ∧
        (controller.sets[cluster]? = none → halt = .failed (.invalid (.noCluster cluster))) ∧
        ∀ set, controller.sets[cluster]? = some set →
          (set.slots ≠ [] → (controller.activeFidelity? cluster).isSome) ∧
          ∃ error, halt = .failed error ∧
            FirstViolated (controller.admission cluster set requests) error := by
  obtain ⟨current, same, follows⟩ :=
    reached.follows untouched first (Controller.follows_new built)
  obtain rfl := Option.some.inj (same.symm.trans found)
  cases begun : current.begin registry.nextToken cluster requests with
  | ok made =>
      obtain ⟨batch, held⟩ := made
      obtain ⟨rfl, rfl, set, begins⟩ := Controller.begin_eq_ok begun
      have obeys := follows.obeys_begin begins.found registry.nextToken requests
      have may := (Controller.admission_holds_iff begins.found).mp
        (obeys.exists_ok_iff.mp ⟨_, begun⟩)
      refine ⟨_, _, serve_begin_of_ok found begun, iff_of_true rfl ⟨set, may⟩, ?_, by simp⟩
      intro other source goal target allowed
      obtain ⟨made, madeEq, madeBegins⟩ := allowed.begin_eq registry.nextToken
      obtain ⟨rfl, -⟩ := Prod.mk.inj (Except.ok.inj (madeBegins.symm.trans begun))
      refine ⟨made, rfl, begins.token_eq, rfl, follows.handsOver built allowed (by rw [madeEq]), ?_⟩
      intro others perm
      obtain ⟨again, againEq, againBegins⟩ :=
        (allowed.of_perm perm).begin_eq registry.nextToken
      obtain rfl : again = made := againEq.trans madeEq.symm
      exact ⟨_, serve_begin_of_ok found againBegins⟩
  | error error =>
      have refused : ∀ set source goal target,
          ¬ current.MayBegin cluster requests set source goal target := by
        intro set source goal target allowed
        obtain ⟨batch, -, begins⟩ := allowed.begin_eq registry.nextToken
        cases begins.symm.trans begun
      refine ⟨_, _, serve_begin_of_error found begun, iff_of_false (by simp) ?_, ?_, ?_⟩
      · rintro ⟨set, source, goal, target, allowed⟩
        exact refused set source goal target allowed
      · intro set source goal target allowed
        exact absurd allowed (refused set source goal target)
      · intro halt replied
        obtain rfl := Except.error.inj replied
        refine ⟨rfl, fun missing => ?_, fun set there =>
          ⟨follows.isSome_activeFidelity? there, error, rfl, ?_⟩⟩
        · obtain rfl := Except.error.inj (begun.symm.trans (Controller.begin_of_missing missing))
          rfl
        · exact (follows.obeys_begin there registry.nextToken requests).eq_error_iff.mp begun

/-- One of two equal controllers begins a batch that names its two slots in descending order. -/
theorem begins_iff_mayBegin_duals :
    ∃ event, duals.serve 0 (.begin 0 [(1, .timing), (0, .timing)]) =
        some (event, duals.add 0 .dual .dual) ∧
      event.reply = .ok () := by
  have first : duals.controllers[0]? = some .dual := rfl
  obtain ⟨set, may⟩ : ∃ set,
      Controller.dual.MayBegin 0 [(1, .timing), (0, .timing)] set 0 1 .timing :=
    ⟨_, { found := rfl
          idle := rfl
          named := .swap 0 1 []
          single := by decide
          source_eq := rfl
          goal_eq := rfl
          adjacent := .inl rfl }⟩
  obtain ⟨event, next, served, accepted, begins, -⟩ :=
    Reaches.begins_iff_mayBegin opened_duals first Controller.new_dual .start first 0
      [(1, .timing), (0, .timing)]
  obtain ⟨batch, -, -, rfl, -, orders⟩ := begins _ _ _ _ may
  obtain ⟨other, ascending⟩ := orders [(0, .timing), (1, .timing)] (.swap _ _ [])
  have begun : duals.serve 0 (.begin 0 [(0, .timing), (1, .timing)]) = some
      (⟨0, .begin 0 [(0, .timing), (1, .timing)], .ok (), []⟩, duals.add 0 .dual .dual) :=
    rfl
  obtain ⟨-, same⟩ := Prod.mk.inj (Option.some.inj (begun.symm.trans ascending))
  exact ⟨event, served.trans (by rw [same]), accepted.mpr ⟨_, _, _, _, may⟩⟩

end Registry

end Mainboard
