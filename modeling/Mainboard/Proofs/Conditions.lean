import Mainboard.Error
import Mainboard.Proofs.Results

/-!
# Conditions in order

Composition checks conditions one after another and gives up at the first that
does not hold, with its error.  A result that comes about in this way obeys the
list of its conditions.  The lemmas here say so for each way of putting checks
together, so that the order of all conditions is read off the text of what
checks them.
-/

namespace Mainboard

/-- Something that has to hold, and the error that says it does not. -/
structure Condition where
  holds : Prop
  error : Error

/-- The error is that of the first condition that does not hold. -/
inductive FirstViolated : List Condition → Error → Prop
  | here {condition : Condition} {conditions : List Condition} (violated : ¬ condition.holds) :
      FirstViolated (condition :: conditions) condition.error
  | later {condition : Condition} {conditions : List Condition} {error : Error}
      (holds : condition.holds) (later : FirstViolated conditions error) :
      FirstViolated (condition :: conditions) error

namespace FirstViolated

variable {conditions others : List Condition} {error other : Error}

theorem exists_violated (violated : FirstViolated conditions error) :
    ∃ condition ∈ conditions, ¬ condition.holds ∧ condition.error = error := by
  induction violated with
  | here violated => exact ⟨_, List.mem_cons_self, violated, rfl⟩
  | later _ _ ih =>
      obtain ⟨condition, member, violated⟩ := ih
      exact ⟨condition, List.mem_cons_of_mem _ member, violated⟩

theorem unique (first : FirstViolated conditions error)
    (second : FirstViolated conditions other) : error = other := by
  induction first with
  | here violated =>
      cases second with
      | here => rfl
      | later holds => exact absurd holds violated
  | later holds _ ih =>
      cases second with
      | here violated => exact absurd holds violated
      | later _ later => exact ih later

theorem append_right (violated : FirstViolated conditions error) (others : List Condition) :
    FirstViolated (conditions ++ others) error := by
  induction violated with
  | here violated => exact .here violated
  | later holds _ ih => exact .later holds ih

theorem append_left (hold : ∀ condition ∈ conditions, condition.holds)
    (violated : FirstViolated others error) : FirstViolated (conditions ++ others) error := by
  induction conditions with
  | nil => exact violated
  | cons condition conditions ih =>
      obtain ⟨first, rest⟩ := List.forall_mem_cons.mp hold
      exact .later first (ih rest)

end FirstViolated

/-- A result obeys conditions: they hold and there is a value, or there is the
error of the first that does not hold. -/
inductive Obeys {α : Type} (conditions : List Condition) : Except Error α → Prop
  | ok {value : α} (hold : ∀ condition ∈ conditions, condition.holds) :
      Obeys conditions (.ok value)
  | error {error : Error} (violated : FirstViolated conditions error) :
      Obeys conditions (.error error)

namespace Obeys

variable {α β : Type} {condition : Condition} {conditions others : List Condition}
variable {outcome : Except Error α}

theorem holds_of_ok {value : α} (obeys : Obeys conditions (.ok value : Except Error α)) :
    ∀ condition ∈ conditions, condition.holds := by
  cases obeys with
  | ok hold => exact hold

theorem violated_of_error {error : Error}
    (obeys : Obeys conditions (.error error : Except Error α)) : FirstViolated conditions error := by
  cases obeys with
  | error violated => exact violated

theorem exists_ok_iff (obeys : Obeys conditions outcome) :
    (∃ value, outcome = .ok value) ↔ ∀ condition ∈ conditions, condition.holds := by
  cases obeys with
  | ok hold => exact iff_of_true ⟨_, rfl⟩ hold
  | error violated =>
      obtain ⟨condition, member, fails, -⟩ := violated.exists_violated
      exact iff_of_false (by simp) fun hold => fails (hold condition member)

theorem eq_error_iff {error : Error} (obeys : Obeys conditions outcome) :
    outcome = .error error ↔ FirstViolated conditions error := by
  cases obeys with
  | ok hold =>
      refine iff_of_false (by simp) fun violated => ?_
      obtain ⟨condition, member, fails, -⟩ := violated.exists_violated
      exact fails (hold condition member)
  | error violated =>
      rw [Except.error.injEq]
      exact ⟨fun same => same ▸ violated, violated.unique⟩

/-- A value that nothing is asked for. -/
theorem pure (value : α) : Obeys [] (.ok value : Except Error α) :=
  .ok (by simp)

/-- A condition that is known to hold may be listed. -/
theorem cons (holds : condition.holds) (obeys : Obeys conditions outcome) :
    Obeys (condition :: conditions) outcome := by
  cases obeys with
  | ok hold => exact .ok (List.forall_mem_cons.mpr ⟨holds, hold⟩)
  | error violated => exact .error (.later holds violated)

/-- A check that fails with an error, before what else is checked. -/
theorem check {refused : Prop} [Decidable refused] (same : condition.holds ↔ ¬ refused)
    (rest : ¬ refused → Obeys conditions outcome) :
    Obeys (condition :: conditions) (if refused then .error condition.error else outcome) := by
  split
  next fails => exact .error (.here fun holds => same.mp holds fails)
  next passes =>
    exact .cons (same.mpr passes) (rest passes)

/-- A condition that is known to hold need not be listed. -/
theorem tail (obeys : Obeys (condition :: conditions) outcome) (holds : condition.holds) :
    Obeys conditions outcome := by
  cases obeys with
  | ok hold => exact .ok (List.forall_mem_cons.mp hold).2
  | error violated =>
      cases violated with
      | here fails => exact absurd holds fails
      | later _ later => exact .error later

theorem append (hold : ∀ condition ∈ others, condition.holds) (obeys : Obeys conditions outcome) :
    Obeys (others ++ conditions) outcome := by
  induction others with
  | nil => exact obeys
  | cons condition others ih =>
      obtain ⟨first, rest⟩ := List.forall_mem_cons.mp hold
      exact .cons first (ih rest)

theorem map (obeys : Obeys conditions outcome) (change : α → β) :
    Obeys conditions (outcome.map change) := by
  cases obeys with
  | ok hold => exact .ok hold
  | error violated => exact .error violated

theorem bind {next : α → Except Error β} (first : Obeys conditions outcome)
    (rest : ∀ value, outcome = .ok value → Obeys others (next value)) :
    Obeys (conditions ++ others) (outcome >>= next) := by
  cases first with
  | @ok value hold =>
      have continued := rest value rfl
      change Obeys _ (next value)
      cases last : next value with
      | ok result =>
          exact .ok (List.forall_mem_append.mpr ⟨hold, (last ▸ continued).holds_of_ok⟩)
      | error error => exact .error (.append_left hold (last ▸ continued).violated_of_error)
  | error violated => exact .error (violated.append_right others)

variable {items : List α} {asked : α → List Condition}

/-- A loop that changes a state checks the conditions of its items in their order. -/
theorem foldlM {state : β} {step : β → α → Except Error β}
    (round : ∀ current, ∀ item ∈ items, Obeys (asked item) (step current item)) :
    Obeys (items.flatMap asked) (items.foldlM step state) := by
  induction items generalizing state with
  | nil => exact .pure state
  | cons item items ih =>
      rw [List.flatMap_cons, List.foldlM_cons]
      exact .bind (round state item List.mem_cons_self) fun next _ =>
        ih fun current other member => round current other (List.mem_cons_of_mem _ member)

/-- A loop that makes results checks the conditions of its items in their order. -/
theorem mapM {make : α → Except Error β} (round : ∀ item ∈ items, Obeys (asked item) (make item)) :
    Obeys (items.flatMap asked) (items.mapM make) := by
  induction items with
  | nil => exact .pure []
  | cons item items ih =>
      rw [List.flatMap_cons, List.mapM_cons]
      have rest := ih fun other member => round other (List.mem_cons_of_mem _ member)
      refine .bind (round item List.mem_cons_self) fun result _ => ?_
      exact rest.map (result :: ·)

end Obeys

end Mainboard
