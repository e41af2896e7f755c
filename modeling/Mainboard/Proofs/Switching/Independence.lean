import Mainboard.Proofs.Switching.Flights
import Mainboard.Proofs.Switching.Renaming
import Mathlib.Logic.Equiv.Basic

/-!
# Clusters are independent

What is asked of two clusters of a controller can be asked in either order.  The
tokens come from one source, so that the order decides which batch has which of
them, but up to a renaming of tokens every answer is the same and so is the
controller.  A history of one cluster can therefore be moved past a history of
the other, however the two are interleaved.
-/

namespace Mainboard

namespace Controller

variable {controller other : Controller} {token cluster : Nat} {requests : List (Nat × CoreModel)}
variable {batch : Batch}

theorem plan_congr (same : other.sequence = controller.sequence) (set : SlotSet)
    (requests : List (Nat × CoreModel)) :
    other.plan set requests = controller.plan set requests := by
  unfold plan
  rw [same]

/-- Whether a batch begins, and which, depends on its cluster only. -/
theorem begin_congr (sequence_eq : other.sequence = controller.sequence)
    (set_eq : other.sets[cluster]? = controller.sets[cluster]?) :
    other.begin token cluster requests =
      (controller.begin token cluster requests).map fun begun => (begun.1, other.held begun.1) := by
  cases found : controller.sets[cluster]? with
  | none => rw [begin_of_missing found, begin_of_missing (set_eq.trans found)]; rfl
  | some set =>
      rw [begin_of_found found, begin_of_found (set_eq.trans found), plan_congr sequence_eq]
      cases controller.plan set requests <;> rfl

/-- Whether a batch is stale depends on its cluster only. -/
theorem complete_congr {way : Completion}
    (set_eq : other.sets[batch.cluster]? = controller.sets[batch.cluster]?) :
    other.complete way batch =
      (controller.complete way batch).map fun _ => other.completed way batch := by
  have same := flight?_congr set_eq
  cases completed : controller.complete way batch with
  | ok after =>
      exact complete_eq_ok_iff.mpr ⟨same.trans (complete_eq_ok_iff.mp completed).1, rfl⟩
  | error error =>
      obtain ⟨free, rfl⟩ := complete_eq_error_iff.mp completed
      exact complete_eq_error_iff.mpr ⟨same ▸ free, rfl⟩

theorem exists_change (way : Completion) (batch : Batch) :
    ∃ change, ∀ controller : Controller,
      controller.completed way batch = controller.modifySet batch.cluster change := by
  cases way with
  | commit | abort => exact ⟨_, fun _ => rfl⟩

end Controller

/-- What is asked of a cluster.  A batch is named by its number among those of the cluster. -/
inductive Operation
  | begin (requests : List (Nat × CoreModel))
  | complete (way : Completion) (place : Nat)

/-- An answer about a cluster, with the batch that has begun, if one has. -/
abbrev Answer : Type := Except Error (Option Batch)

def Answer.renamed (rename : Equiv.Perm Nat) : Answer → Answer
  | .ok begun => .ok (begun.map (·.renamed rename))
  | .error error => .error error

theorem Answer.renamed_mul {rename other : Equiv.Perm Nat} (answer : Answer) :
    answer.renamed (other * rename) = Answer.renamed other (answer.renamed rename) := by
  cases answer with
  | error error => rfl
  | ok begun => cases begun <;> rfl

theorem Answer.renamed_one (answer : Answer) : answer.renamed 1 = answer := by
  cases answer with
  | error error => rfl
  | ok begun => cases begun <;> rfl

/-- A controller at its source of tokens, the batches of each cluster and the answers about it. -/
structure Desk where
  controller : Controller
  nextToken : Nat
  batches : Nat → List Batch
  answers : Nat → List Answer

namespace Desk

/-- The desk with a controller, once an answer about a cluster, and any batch that has begun, are on
file. -/
def file (desk : Desk) (cluster : Nat) (controller : Controller) (made : List Batch)
    (answers : List Answer) : Desk where
  controller
  nextToken := desk.nextToken + made.length
  batches := Function.update desk.batches cluster (desk.batches cluster ++ made)
  answers := Function.update desk.answers cluster (desk.answers cluster ++ answers)

/-- Asks for an operation on a cluster, with a token for the batch that may begin.  There is no
answer about a batch that has not begun. -/
def performWith (desk : Desk) (token cluster : Nat) : Operation → Desk
  | .begin requests =>
      match desk.controller.begin token cluster requests with
      | .ok (batch, next) => desk.file cluster next [batch] [.ok (some batch)]
      | .error error => desk.file cluster desk.controller [] [.error error]
  | .complete way place =>
      match (desk.batches cluster)[place]? with
      | none => desk
      | some batch =>
          match desk.controller.complete way batch with
          | .ok next => desk.file cluster next [] [.ok none]
          | .error error => desk.file cluster desk.controller [] [.error error]

/-- Asks for an operation on a cluster.  A batch that begins has the next token. -/
def perform (desk : Desk) (entry : Nat × Operation) : Desk :=
  desk.performWith desk.nextToken entry.1 entry.2

def run (desk : Desk) (entries : List (Nat × Operation)) : Desk := entries.foldl perform desk

theorem run_append (desk : Desk) (earlier later : List (Nat × Operation)) :
    desk.run (earlier ++ later) = (desk.run earlier).run later :=
  List.foldl_append

/-- The desk with all tokens renamed that have been drawn. -/
def renamed (rename : Equiv.Perm Nat) (desk : Desk) : Desk where
  controller := desk.controller.renamed rename
  nextToken := desk.nextToken
  batches cluster := (desk.batches cluster).map (·.renamed rename)
  answers cluster := (desk.answers cluster).map (·.renamed rename)

/-- Two desks are the same but for the names of the tokens that both have drawn from some token
on. -/
def Matches (base : Nat) (desk other : Desk) : Prop :=
  ∃ rename : Equiv.Perm Nat,
    (∀ token, token < base ∨ desk.nextToken ≤ token → rename token = token) ∧
      other = desk.renamed rename

/-- A desk has the batches of a cluster on file with that cluster, and its tokens have been drawn. -/
structure IsSound (desk : Desk) : Prop where
  filed : ∀ cluster, ∀ batch ∈ desk.batches cluster, batch.cluster = cluster
  drawn : ∀ rename : Equiv.Perm Nat, (∀ token < desk.nextToken, rename token = token) →
    desk.renamed rename = desk

section Renaming

variable {desk : Desk} {rename other : Equiv.Perm Nat} {token cluster : Nat}
variable {operation : Operation}

theorem renamed_one (desk : Desk) : desk.renamed 1 = desk := by
  have controller : desk.controller.renamed 1 = desk.controller :=
    Controller.renamed_eq_self fun _ _ _ => rfl
  simp [renamed, controller, Batch.renamed_one, Answer.renamed_one]

theorem renamed_mul (desk : Desk) :
    desk.renamed (other * rename) = (desk.renamed rename).renamed other := by
  simp [renamed, Controller.renamed_mul, Batch.renamed_mul, Answer.renamed_mul,
    Function.comp_def]

theorem file_renamed {next : Controller} {made : List Batch} {answers : List Answer} :
    (desk.file cluster next made answers).renamed rename =
      (desk.renamed rename).file cluster (next.renamed rename) (made.map (·.renamed rename))
        (answers.map (·.renamed rename)) := by
  simp only [file, renamed, List.length_map, Desk.mk.injEq, true_and]
  constructor
  all_goals
    funext place
    by_cases here : place = cluster
    · subst here
      simp
    · simp [here]

/-- An operation does on a renamed desk what it does on the other. -/
theorem performWith_renamed :
    (desk.performWith token cluster operation).renamed rename =
      (desk.renamed rename).performWith (rename token) cluster operation := by
  cases operation with
  | begin requests =>
      have begun : (desk.renamed rename).controller.begin (rename token) cluster requests = _ :=
        Controller.begin_renamed
      cases here : desk.controller.begin token cluster requests with
      | ok made | error error =>
          rw [here] at begun
          rw [performWith, performWith, here, begun, file_renamed]
          rfl
  | complete way place =>
      have listed : ((desk.renamed rename).batches cluster)[place]? = _ := List.getElem?_map
      cases found : (desk.batches cluster)[place]? with
      | none =>
          rw [found] at listed
          rw [performWith, performWith, found, listed]
          rfl
      | some batch =>
          rw [found] at listed
          have completed : (desk.renamed rename).controller.complete way (batch.renamed rename) = _ :=
            Controller.complete_renamed way
          cases here : desk.controller.complete way batch with
          | ok next | error error =>
              rw [here] at completed
              simp only [performWith, found, listed, Option.map_some, here, completed, file_renamed]
              rfl

end Renaming

section Locality

variable {desk other : Desk} {token cluster : Nat} {operation : Operation}

/-- Two desks agree on all that an operation on a cluster looks at. -/
structure AgreesAt (desk other : Desk) (cluster : Nat) : Prop where
  sequence_eq : other.controller.sequence = desk.controller.sequence
  set_eq : other.controller.sets[cluster]? = desk.controller.sets[cluster]?
  batches_eq : other.batches cluster = desk.batches cluster

/-- What an operation does to its cluster. -/
structure Deed (cluster : Nat) where
  change : SlotSet → SlotSet
  made : List Batch
  answers : List Answer
  filed : ∀ batch ∈ made, batch.cluster = cluster

/-- An operation that is refused, or one that nothing comes of. -/
def Deed.idle (cluster : Nat) (answers : List Answer) : Deed cluster :=
  ⟨id, [], answers, by simp⟩

def doing (desk : Desk) (cluster : Nat) (deed : Deed cluster) : Desk :=
  desk.file cluster (desk.controller.modifySet cluster deed.change) deed.made deed.answers

theorem doing_idle (desk : Desk) (cluster : Nat) (answers : List Answer) :
    desk.doing cluster (.idle cluster answers) = desk.file cluster desk.controller [] answers := by
  simp [doing, Deed.idle, Controller.modifySet, List.modify_id]

theorem file_nothing (desk : Desk) (cluster : Nat) :
    desk.file cluster desk.controller [] [] = desk := by
  simp [file]

theorem agreesAt_doing {apart : Nat} (ne : apart ≠ cluster) (desk : Desk) (deed : Deed cluster) :
    desk.AgreesAt (desk.doing cluster deed) apart where
  sequence_eq := rfl
  set_eq := Controller.getElem?_modifySet_of_ne _ ne.symm
  batches_eq := Function.update_of_ne ne _ _

/-- What is done to one cluster and to another can be done in either order. -/
theorem doing_comm {apart : Nat} (ne : apart ≠ cluster) (desk : Desk) (one : Deed cluster)
    (other : Deed apart) :
    (desk.doing cluster one).doing apart other = (desk.doing apart other).doing cluster one := by
  simp only [doing, file, Desk.mk.injEq, Function.update_of_ne ne, Function.update_of_ne ne.symm,
    Function.update_comm ne, Nat.add_right_comm, and_true]
  simp [Controller.modifySet, List.modify_modify_ne _ _ _ ne]

/-- All that an operation does is done to its cluster, and what it does there does not depend on any
other. -/
theorem performWith_local (filed : ∀ batch ∈ desk.batches cluster, batch.cluster = cluster)
    (token : Nat) (operation : Operation) :
    ∃ deed : Deed cluster, ∀ other, desk.AgreesAt other cluster →
      other.performWith token cluster operation = other.doing cluster deed := by
  cases operation with
  | begin requests =>
      cases begun : desk.controller.begin token cluster requests with
      | ok made =>
          obtain ⟨batch, next⟩ := made
          obtain ⟨rfl, -⟩ := Controller.begin_eq_ok begun
          refine ⟨⟨fun set => { set with state := .inFlight batch.token }, [batch],
            [.ok (some batch)], by simp⟩, fun other agrees => ?_⟩
          rw [performWith, Controller.begin_congr agrees.sequence_eq agrees.set_eq, begun]
          rfl
      | error error =>
          refine ⟨.idle cluster [.error error], fun other agrees => ?_⟩
          rw [performWith, Controller.begin_congr agrees.sequence_eq agrees.set_eq, begun,
            doing_idle]
          rfl
  | complete way place =>
      cases found : (desk.batches cluster)[place]? with
      | none =>
          refine ⟨.idle cluster [], fun other agrees => ?_⟩
          rw [doing_idle, file_nothing, performWith, agrees.batches_eq, found]
      | some batch =>
          obtain rfl := filed batch (List.mem_of_getElem? found)
          obtain ⟨change, changed⟩ := Controller.exists_change way batch
          cases completed : desk.controller.complete way batch with
          | ok next =>
              refine ⟨⟨change, [], [.ok none], by simp⟩, fun other agrees => ?_⟩
              rw [performWith, agrees.batches_eq, found]
              simp only [Controller.complete_congr agrees.set_eq, completed, doing, ← changed]
              rfl
          | error error =>
              refine ⟨.idle batch.cluster [.error error], fun other agrees => ?_⟩
              rw [performWith, agrees.batches_eq, found, doing_idle]
              simp only [Controller.complete_congr agrees.set_eq, completed]
              rfl

theorem AgreesAt.refl (desk : Desk) (cluster : Nat) : desk.AgreesAt desk cluster :=
  ⟨rfl, rfl, rfl⟩

/-- Operations on two clusters can be exchanged if each keeps its token. -/
theorem performWith_comm (sound : desk.IsSound) {first second : Nat} (ne : second ≠ first)
    (firstToken secondToken : Nat) (one other : Operation) :
    (desk.performWith firstToken first one).performWith secondToken second other =
        (desk.performWith secondToken second other).performWith firstToken first one ∧
      ((desk.performWith firstToken first one).performWith secondToken second other).nextToken +
          desk.nextToken =
        (desk.performWith firstToken first one).nextToken +
          (desk.performWith secondToken second other).nextToken := by
  obtain ⟨deed, done⟩ := performWith_local (sound.filed first) firstToken one
  obtain ⟨otherDeed, otherDone⟩ := performWith_local (sound.filed second) secondToken other
  rw [done desk (.refl desk first), otherDone desk (.refl desk second),
    otherDone _ (agreesAt_doing ne desk deed), done _ (agreesAt_doing ne.symm desk otherDeed)]
  refine ⟨doing_comm ne desk deed otherDeed, ?_⟩
  simp only [doing, file]
  omega

/-- An operation draws a token, whichever it is, or it is the same for all tokens and draws none. -/
theorem draws_or_ignores (desk : Desk) (cluster : Nat) (operation : Operation) :
    (∀ token, (desk.performWith token cluster operation).nextToken = desk.nextToken + 1) ∨
      ∃ after : Desk, after.nextToken = desk.nextToken ∧
        ∀ token, desk.performWith token cluster operation = after := by
  cases operation with
  | begin requests =>
      cases found : desk.controller.sets[cluster]? with
      | none =>
          refine .inr ⟨desk.file cluster desk.controller [] [.error (.invalid (.noCluster cluster))],
            rfl, fun token => ?_⟩
          rw [performWith, Controller.begin_of_missing found]
      | some set =>
          cases planned : desk.controller.plan set requests with
          | ok positions =>
              refine .inl fun token => ?_
              rw [performWith, Controller.begin_of_found found, planned]
              rfl
          | error fault =>
              refine .inr ⟨desk.file cluster desk.controller [] [.error (.switch cluster fault)],
                rfl, fun token => ?_⟩
              rw [performWith, Controller.begin_of_found found, planned]
              rfl
  | complete way place =>
      refine .inr ⟨desk.performWith 0 cluster (.complete way place), ?_, fun _ => rfl⟩
      unfold performWith
      dsimp only
      split
      · rfl
      · split <;> rfl

theorem nextToken_le_perform (desk : Desk) (entry : Nat × Operation) :
    desk.nextToken ≤ (desk.perform entry).nextToken := by
  obtain draws | ⟨after, same, ignores⟩ := desk.draws_or_ignores entry.1 entry.2
  · rw [perform, draws]
    exact Nat.le_succ _
  · rw [perform, ignores, same]

theorem IsSound.perform (sound : desk.IsSound) (entry : Nat × Operation) :
    (desk.perform entry).IsSound where
  filed := by
    obtain ⟨deed, done⟩ := performWith_local (sound.filed entry.1) desk.nextToken entry.2
    rw [Desk.perform, done desk (.refl desk entry.1)]
    intro place batch member
    by_cases here : place = entry.1
    · subst here
      simp only [doing, file, Function.update_self, List.mem_append] at member
      exact member.elim (sound.filed _ batch) (deed.filed batch)
    · simp only [doing, file, Function.update_of_ne here] at member
      exact sound.filed place batch member
  drawn := by
    intro rename fixed
    have before := sound.drawn rename fun token drawn =>
      fixed token (Nat.lt_of_lt_of_le drawn (desk.nextToken_le_perform entry))
    rw [Desk.perform, performWith_renamed, before]
    obtain draws | ⟨after, -, ignores⟩ := desk.draws_or_ignores entry.1 entry.2
    · rw [fixed desk.nextToken (by rw [Desk.perform, draws]; exact Nat.lt_succ_self _)]
    · rw [ignores, ignores]

end Locality

namespace Matches

variable {desk other third : Desk} {base : Nat}

theorem refl (base : Nat) (desk : Desk) : desk.Matches base desk :=
  ⟨1, fun _ _ => rfl, desk.renamed_one.symm⟩

theorem trans (first : desk.Matches base other) (second : other.Matches base third) :
    desk.Matches base third := by
  obtain ⟨rename, fixed, rfl⟩ := first
  obtain ⟨again, fixedAgain, rfl⟩ := second
  refine ⟨again * rename, fun token outside => ?_, (desk.renamed_mul).symm⟩
  rw [Equiv.Perm.mul_apply, fixed token outside, fixedAgain token outside]

theorem perform (same : desk.Matches base other) (entry : Nat × Operation) :
    (desk.perform entry).Matches base (other.perform entry) := by
  obtain ⟨rename, fixed, rfl⟩ := same
  refine ⟨rename, fun token outside => fixed token ?_, ?_⟩
  · exact outside.imp_right (Nat.le_trans (desk.nextToken_le_perform entry))
  · rw [Desk.perform, Desk.perform, performWith_renamed, fixed _ (.inr (Nat.le_refl _))]
    rfl

theorem run (same : desk.Matches base other) (entries : List (Nat × Operation)) :
    (desk.run entries).Matches base (other.run entries) := by
  induction entries generalizing desk other with
  | nil => exact same
  | cons entry entries ih => exact ih (same.perform entry)

end Matches

section Histories

variable {desk : Desk} {base : Nat} {entry : Nat × Operation}
variable {one other whole : List (Nat × Operation)}

/-- Two operations on two clusters can be exchanged, up to the names of their tokens. -/
theorem IsSound.perform_comm (sound : desk.IsSound) (old : base ≤ desk.nextToken)
    {first second : Nat} (ne : second ≠ first) (one other : Operation) :
    ((desk.perform (first, one)).perform (second, other)).Matches base
      ((desk.perform (second, other)).perform (first, one)) := by
  have swap := fun token later => performWith_comm sound ne token later one other
  simp only [Desk.perform]
  obtain draws | ⟨after, same, ignores⟩ := desk.draws_or_ignores first one
  · obtain drawsOther | ⟨after, same, ignores⟩ := desk.draws_or_ignores second other
    -- Both draw a token, and in the other order each has the one of the other.
    · have total := (swap desk.nextToken (desk.nextToken + 1)).2
      rw [draws, drawsOther] at total
      rw [draws, drawsOther, ← (swap (desk.nextToken + 1) desk.nextToken).1]
      refine ⟨Equiv.swap desk.nextToken (desk.nextToken + 1), fun token outside => ?_, ?_⟩
      · exact Equiv.swap_apply_of_ne_of_ne (by omega) (by omega)
      · rw [performWith_renamed, performWith_renamed, Equiv.swap_apply_left,
          Equiv.swap_apply_right, sound.drawn]
        intro token drawn
        exact Equiv.swap_apply_of_ne_of_ne (by omega) (by omega)
    · rw [(swap desk.nextToken _).1, ignores, ignores, same]
      exact .refl base _
  · rw [← (swap _ desk.nextToken).1, ignores, ignores, same]
    exact .refl base _

/-- An operation can be put off until a history of other clusters is over. -/
theorem IsSound.run_cons_comm (sound : desk.IsSound) (old : base ≤ desk.nextToken)
    (apart : ∀ earlier ∈ one, entry.1 ≠ earlier.1) :
    (desk.run (entry :: one)).Matches base (desk.run (one ++ [entry])) := by
  induction one generalizing desk with
  | nil => exact .refl base _
  | cons earlier one ih =>
      have swapped := (sound.perform_comm old (apart earlier List.mem_cons_self).symm entry.2
        earlier.2).run one
      have rest := ih (sound.perform earlier) (old.trans (desk.nextToken_le_perform earlier))
        fun later member => apart later (List.mem_cons_of_mem _ member)
      exact swapped.trans rest

end Histories

end Desk

/-- A list is made of two others, each in its order. -/
inductive Interleaves {α : Type} : List α → List α → List α → Prop
  | nil : Interleaves [] [] []
  | left {one other whole : List α} (item : α) (rest : Interleaves one other whole) :
      Interleaves (item :: one) other (item :: whole)
  | right {one other whole : List α} (item : α) (rest : Interleaves one other whole) :
      Interleaves one (item :: other) (item :: whole)

/-- Two histories without a cluster in common, however interleaved, end as they do one after the
other. -/
theorem Desk.IsSound.run_interleaved {desk : Desk} (sound : desk.IsSound) {base : Nat}
    (old : base ≤ desk.nextToken) {one other whole : List (Nat × Operation)}
    (interleaves : Interleaves one other whole)
    (apart : (one.map Prod.fst).Disjoint (other.map Prod.fst)) :
    (desk.run whole).Matches base (desk.run (one ++ other)) := by
  induction interleaves generalizing desk with
  | nil => exact .refl base _
  | left item rest ih =>
      rw [List.map_cons, List.disjoint_cons_left] at apart
      exact ih (sound.perform item) (old.trans (desk.nextToken_le_perform item)) apart.2
  -- Asked for first, the item waits until all that is left of the other history is over.
  | right item rest ih =>
      rename_i one other whole
      rw [List.map_cons, List.disjoint_cons_right] at apart
      have interleaved := ih (sound.perform item) (old.trans (desk.nextToken_le_perform item)) apart.2
      have others : ∀ earlier ∈ one, item.1 ≠ earlier.1 := fun earlier member same =>
        apart.1 (same ▸ List.mem_map_of_mem member)
      have moved := (sound.run_cons_comm old others).run other
      rw [← run_append, ← run_append, List.append_assoc] at moved
      exact interleaved.trans moved

namespace Registry

variable {start registry : Registry} {events : List Event} {number : Nat} {controller : Controller}

/-- The desk of a controller, with all batches that have begun, whichever controller began them. -/
def desk (registry : Registry) (controller : Controller) : Desk where
  controller
  nextToken := registry.nextToken
  batches cluster := (registry.begun.map (·.2)).filter (·.cluster = cluster)
  answers _ := []

theorem Consistent.isSound_desk (consistent : registry.Consistent)
    (found : registry.controllers[number]? = some controller) :
    (registry.desk controller).IsSound where
  filed := fun cluster batch member => of_decide_eq_true (List.mem_filter.mp member).2
  drawn := by
    intro rename fixed
    have batchEq : ∀ batch ∈ registry.begun.map (·.2), batch.renamed rename = batch := by
      intro batch member
      obtain ⟨entry, listed, rfl⟩ := List.mem_map.mp member
      rw [Batch.renamed, fixed _ (consistent.below entry listed)]
    have controllerEq : controller.renamed rename = controller := by
      refine Controller.renamed_eq_self fun cluster token flying => ?_
      obtain ⟨serial, batch, listed, -, rfl, -⟩ := consistent.flights found flying
      exact fixed _ (consistent.below _ (List.mem_of_getElem? listed))
    have batchesEq : ∀ cluster, ((registry.desk controller).batches cluster).map
        (·.renamed rename) = (registry.desk controller).batches cluster := fun cluster =>
      (List.map_congr_left fun batch member => batchEq batch (List.mem_of_mem_filter member)).trans
        (List.map_id _)
    simp only [Desk.renamed, batchesEq]
    simp [desk, controllerEq]

/-- Whatever a controller has been asked for before, two operations on two of its clusters can be
asked for in either order, and a history of some clusters and one of others end as they do one after
the other, however they are interleaved.  All answers are the same, and so are the controllers and
the batches, but for the names of the tokens that have been drawn meanwhile. -/
theorem Reaches.histories_commute (untouched : start.Opened)
    (reached : start.Reaches events registry)
    (found : registry.controllers[number]? = some controller) :
    (∀ {first second : Nat}, second ≠ first → ∀ one other : Operation,
      ((registry.desk controller).run [(first, one), (second, other)]).Matches registry.nextToken
        ((registry.desk controller).run [(second, other), (first, one)])) ∧
    ∀ {one other whole : List (Nat × Operation)}, Interleaves one other whole →
      (one.map Prod.fst).Disjoint (other.map Prod.fst) →
      ((registry.desk controller).run whole).Matches registry.nextToken
        ((registry.desk controller).run (one ++ other)) := by
  have sound := (reached.consistent untouched).isSound_desk found
  exact ⟨fun ne => sound.perform_comm (Nat.le_refl _) ne,
    fun interleaves apart => sound.run_interleaved (Nat.le_refl _) interleaves apart⟩

/-- One of two clusters is switched and the other broken, begun in the one order and completed in
the other.  One after the other they have each other's tokens. -/
theorem histories_commute_twins :
    ∃ one other whole, Interleaves one other whole ∧
      ((twins.desk .twins).run whole).Matches 1 ((twins.desk .twins).run (one ++ other)) ∧
      (List.range 2).map (fun cluster =>
        (((twins.desk .twins).run whole).batches cluster).map (·.token)) = [[2], [1]] ∧
      (List.range 2).map (fun cluster =>
        (((twins.desk .twins).run (one ++ other)).batches cluster).map (·.token)) = [[1], [2]] := by
  have found : twins.controllers[0]? = some .twins := rfl
  have interleaves : Interleaves
      [(0, Operation.begin [(0, .timing)]), (0, .complete .commit 0)]
      [(1, Operation.begin [(0, .timing)]), (1, .complete .abort 0)]
      [(1, Operation.begin [(0, .timing)]), (0, .begin [(0, .timing)]), (0, .complete .commit 0),
        (1, .complete .abort 0)] :=
    .right _ (.left _ (.left _ (.right _ .nil)))
  refine ⟨_, _, _, interleaves, ?_, rfl, rfl⟩
  exact (Reaches.start.histories_commute opened_twins found).2 interleaves (by simp)

end Registry

end Mainboard
