import Mainboard.Proofs.Switching.Admission
import Mainboard.Proofs.Switching.Registry
import Mathlib.Algebra.Group.End

/-!
# Renaming tokens

A token is only ever compared with another, so that nothing but a name depends
on its value.  If the tokens of a controller and its batches are renamed, one to
one, it begins and completes the renamed batches where it would have begun and
completed the others.
-/

namespace Mainboard

variable {rename other : Equiv.Perm Nat}

def SetState.renamed (rename : Equiv.Perm Nat) : SetState → SetState
  | .idle => .idle
  | .inFlight token => .inFlight (rename token)
  | .poisoned => .poisoned

def SlotSet.renamed (rename : Equiv.Perm Nat) (set : SlotSet) : SlotSet :=
  { set with state := set.state.renamed rename }

def Batch.renamed (rename : Equiv.Perm Nat) (batch : Batch) : Batch :=
  { batch with token := rename batch.token }

def Controller.renamed (rename : Equiv.Perm Nat) (controller : Controller) : Controller :=
  { controller with sets := controller.sets.map (·.renamed rename) }

theorem SetState.renamed_mul (state : SetState) :
    state.renamed (other * rename) = (state.renamed rename).renamed other := by
  cases state <;> rfl

theorem SetState.renamed_eq_self {state : SetState}
    (fixed : ∀ token, state = .inFlight token → rename token = token) :
    state.renamed rename = state := by
  cases state with
  | idle | poisoned => rfl
  | inFlight token => exact congrArg inFlight (fixed token rfl)

theorem SlotSet.renamed_mul (set : SlotSet) :
    set.renamed (other * rename) = (set.renamed rename).renamed other := by
  rw [renamed, SetState.renamed_mul]
  rfl

theorem Batch.renamed_mul (batch : Batch) :
    batch.renamed (other * rename) = (batch.renamed rename).renamed other :=
  rfl

theorem Batch.renamed_one (batch : Batch) : batch.renamed 1 = batch :=
  rfl

namespace Controller

variable {controller after : Controller} {token cluster : Nat} {set : SlotSet} {batch : Batch}
variable {requests : List (Nat × CoreModel)}

theorem renamed_mul (controller : Controller) :
    controller.renamed (other * rename) = (controller.renamed rename).renamed other := by
  simp [renamed, SlotSet.renamed_mul, Function.comp_def]

@[simp]
theorem getElem?_renamed (controller : Controller) (cluster : Nat) :
    (controller.renamed rename).sets[cluster]? =
      controller.sets[cluster]?.map (·.renamed rename) :=
  List.getElem?_map

theorem renamed_eq_self
    (fixed : ∀ cluster token, controller.flight? cluster = some token → rename token = token) :
    controller.renamed rename = controller := by
  have sets : controller.sets.map (·.renamed rename) = controller.sets := by
    refine (List.map_congr_left fun set member => ?_).trans (List.map_id _)
    obtain ⟨cluster, found⟩ := List.getElem?_of_mem member
    have same : set.state.renamed rename = set.state := by
      refine SetState.renamed_eq_self fun token flying => fixed cluster token ?_
      rwa [flight?_of_found found, SlotSet.flight?_eq_some_iff]
    rw [SlotSet.renamed, same]
    rfl
  rw [renamed, sets]

/-- A change of a cluster that does not look at tokens is the same for the renamed cluster. -/
theorem modifySet_renamed {change renamedChange : SlotSet → SlotSet}
    (same : ∀ set : SlotSet, renamedChange (set.renamed rename) = (change set).renamed rename) :
    (controller.renamed rename).modifySet cluster renamedChange =
      (controller.modifySet cluster change).renamed rename := by
  have sets : (controller.sets.map (·.renamed rename)).modify cluster renamedChange =
      (controller.sets.modify cluster change).map (·.renamed rename) := by
    apply List.ext_getElem?
    intro place
    rw [List.getElem?_modify, List.getElem?_map, List.getElem?_map, List.getElem?_modify]
    cases controller.sets[place]? with
    | none => rfl
    | some set =>
        by_cases here : cluster = place
        · simp [here, same]
        · simp [here]
  simp [renamed, modifySet, sets]

theorem plan_renamed : (controller.renamed rename).plan (set.renamed rename) requests =
    controller.plan set requests := by
  obtain ⟨cluster, slots, state⟩ := set
  cases state <;> rfl

theorem completed_renamed (way : Completion) :
    (controller.renamed rename).completed way (batch.renamed rename) =
      (controller.completed way batch).renamed rename := by
  cases way with
  | commit | abort => exact modifySet_renamed fun _ => rfl

/-- A batch begins where it would have begun, with the name of the other token. -/
theorem begin_renamed :
    (controller.renamed rename).begin (rename token) cluster requests =
      (controller.begin token cluster requests).map fun begun =>
        (begun.1.renamed rename, begun.2.renamed rename) := by
  have here : (controller.renamed rename).sets[cluster]? = _ := getElem?_renamed controller cluster
  cases found : controller.sets[cluster]? with
  | none =>
      rw [found] at here
      rw [begin_of_missing found, begin_of_missing here]
      rfl
  | some set =>
      rw [found] at here
      rw [begin_of_found found, begin_of_found here, plan_renamed]
      cases controller.plan set requests with
      | error fault => rfl
      | ok positions =>
          exact congrArg (fun after => Except.ok (_, after)) (modifySet_renamed fun _ => rfl)

theorem flight?_renamed (controller : Controller) (cluster : Nat) :
    (controller.renamed rename).flight? cluster = (controller.flight? cluster).map rename := by
  rw [flight?, flight?, getElem?_renamed]
  cases controller.sets[cluster]? with
  | none => rfl
  | some set =>
      obtain ⟨cluster, slots, state⟩ := set
      cases state <;> rfl

/-- A batch is completed where it would have been completed, and stale where it would have been
stale: tokens are told apart by their new names as by the old ones. -/
theorem complete_renamed (way : Completion) :
    (controller.renamed rename).complete way (batch.renamed rename) =
      (controller.complete way batch).map (·.renamed rename) := by
  have holds : (controller.renamed rename).flight? (batch.renamed rename).cluster =
        some (batch.renamed rename).token ↔
      controller.flight? batch.cluster = some batch.token := by
    rw [flight?_renamed]
    exact (Option.map_injective rename.injective).eq_iff (b := some batch.token)
  cases completed : controller.complete way batch with
  | ok after =>
      obtain ⟨flying, rfl⟩ := complete_eq_ok_iff.mp completed
      exact complete_eq_ok_iff.mpr ⟨holds.mpr flying, (completed_renamed way).symm⟩
  | error error =>
      obtain ⟨free, rfl⟩ := complete_eq_error_iff.mp completed
      exact complete_eq_error_iff.mpr ⟨fun flying => free (holds.mp flying), rfl⟩

end Controller

end Mainboard
