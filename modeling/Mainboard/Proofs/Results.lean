import Mathlib.Data.List.Forall2

/-!
# Results that may be errors

How a result with its error translated, or one that other results are needed
for, came about.
-/

namespace Except

variable {ε δ α β : Type}

@[simp]
theorem mapError_ok (translate : ε → δ) (value : α) :
    (Except.ok value).mapError translate = .ok value :=
  rfl

@[simp]
theorem mapError_error (translate : ε → δ) (error : ε) :
    (Except.error error : Except ε α).mapError translate = .error (translate error) :=
  rfl

theorem mapError_eq_ok_iff {translate : ε → δ} {outcome : Except ε α} {value : α} :
    outcome.mapError translate = .ok value ↔ outcome = .ok value := by
  cases outcome with
  | ok other => rw [mapError_ok, ok.injEq, ok.injEq]
  | error error => simp

theorem mapError_eq_error_iff {translate : ε → δ} {outcome : Except ε α} {error : δ} :
    outcome.mapError translate = .error error ↔
      ∃ cause, outcome = .error cause ∧ translate cause = error := by
  cases outcome with
  | ok value => simp
  | error cause => simp

theorem map_eq_ok_iff {change : α → β} {outcome : Except ε α} {value : β} :
    outcome.map change = .ok value ↔ ∃ origin, outcome = .ok origin ∧ change origin = value := by
  cases outcome with
  | ok origin =>
      have mapped : (Except.ok origin : Except ε α).map change = .ok (change origin) := rfl
      simp [mapped]
  | error error =>
      have stopped : (Except.error error : Except ε α).map change = .error error := rfl
      simp [stopped]

theorem bind_eq_ok_iff {first : Except ε α} {next : α → Except ε β} {value : β} :
    first >>= next = .ok value ↔ ∃ middle, first = .ok middle ∧ next middle = .ok value := by
  cases first with
  | ok middle =>
      have continued : Except.ok middle >>= next = next middle := rfl
      simp [continued]
  | error error =>
      have stopped : (Except.error error : Except ε α) >>= next = .error error := rfl
      simp [stopped]

theorem bind_eq_error_iff {first : Except ε α} {next : α → Except ε β} {error : ε} :
    first >>= next = .error error ↔
      first = .error error ∨ ∃ middle, first = .ok middle ∧ next middle = .error error := by
  cases first with
  | ok middle =>
      have continued : Except.ok middle >>= next = next middle := rfl
      simp [continued]
  | error other =>
      have stopped : (Except.error other : Except ε α) >>= next = .error other := rfl
      simp [stopped]

/-- What follows a check is reached if the check passes. -/
theorem andThen_eq_ok_iff {check : Except ε PUnit} {next : Except ε β} {value : β} :
    (check >>= fun _ => next) = .ok value ↔ check = .ok () ∧ next = .ok value := by
  rw [bind_eq_ok_iff]
  exact ⟨fun ⟨_, passed, rest⟩ => ⟨passed, rest⟩, fun ⟨passed, rest⟩ => ⟨_, passed, rest⟩⟩

theorem forM_eq_ok_iff {items : List α} {check : α → Except ε PUnit} :
    items.forM check = .ok () ↔ ∀ item ∈ items, check item = .ok () := by
  induction items with
  | nil =>
      have done : ([] : List α).forM check = .ok () := rfl
      simp [done]
  | cons item items ih =>
      have first : (item :: items).forM check = check item >>= fun _ => items.forM check := rfl
      rw [first, andThen_eq_ok_iff, List.forall_mem_cons, ih]

/-- A loop of checks fails with the first check that fails. -/
theorem forM_eq_error_iff {items : List α} {check : α → Except ε PUnit} {error : ε} :
    items.forM check = .error error ↔
      ∃ before item after, items = before ++ item :: after ∧ check item = .error error ∧
        ∀ earlier ∈ before, check earlier = .ok () := by
  induction items with
  | nil =>
      have done : ([] : List α).forM check = .ok () := rfl
      simp [done]
  | cons item items ih =>
      have first : (item :: items).forM check = check item >>= fun _ => items.forM check := rfl
      rw [first, bind_eq_error_iff, ih]
      constructor
      · rintro (failed | ⟨_, passed, before, other, after, rfl, failed, earlier⟩)
        · exact ⟨[], item, items, rfl, failed, by simp⟩
        · exact ⟨item :: before, other, after, rfl, failed,
            List.forall_mem_cons.mpr ⟨passed, earlier⟩⟩
      · rintro ⟨before, other, after, split, failed, earlier⟩
        cases before with
        | nil =>
            obtain ⟨rfl, rfl⟩ := List.cons.inj split
            exact .inl failed
        | cons head before =>
            obtain ⟨rfl, rfl⟩ := List.cons.inj split
            obtain ⟨passed, earlier⟩ := List.forall_mem_cons.mp earlier
            exact .inr ⟨_, passed, before, other, after, rfl, failed, earlier⟩

/-- A loop that makes results has them one by one, in the order of its items. -/
theorem mapM_eq_ok_iff {items : List α} {make : α → Except ε β} {results : List β} :
    items.mapM make = .ok results ↔
      List.Forall₂ (fun item result => make item = .ok result) items results := by
  induction items generalizing results with
  | nil =>
      have done : ([] : List α).mapM make = .ok [] := rfl
      rw [done, ok.injEq, List.forall₂_nil_left_iff, eq_comm]
  | cons item items ih =>
      rw [List.mapM_cons, bind_eq_ok_iff, List.forall₂_cons_left_iff]
      refine exists_congr fun result => ?_
      rw [bind_eq_ok_iff]
      constructor
      · rintro ⟨made, rest, others, same⟩
        exact ⟨rest, made, ih.mp others, (ok.inj same).symm⟩
      · rintro ⟨rest, made, others, rfl⟩
        exact ⟨made, rest, ih.mpr others, rfl⟩

end Except

namespace List.Forall₂

variable {α β γ : Type} {holds : α → β → Prop} {items : List α} {results : List β}

/-- What is the same of every item and its result is the same of the two lists. -/
theorem map_eq_map {view : α → γ} {other : β → γ} (related : Forall₂ holds items results)
    (same : ∀ item result, holds item result → view item = other result) :
    items.map view = results.map other := by
  induction related with
  | nil => rfl
  | cons first _ ih => rw [map_cons, map_cons, same _ _ first, ih]

/-- Items and the results of their results are related through the results between. -/
theorem through {more : β → γ → Prop} {final : List γ} (first : Forall₂ holds items results)
    (second : Forall₂ more results final) :
    Forall₂ (fun item last => ∃ result, holds item result ∧ more result last) items final := by
  induction first generalizing final with
  | nil =>
      cases second
      exact .nil
  | cons head _ ih =>
      cases second with
      | cons next rest => exact .cons ⟨_, head, next⟩ (ih rest)

/-- The result of an item is found at the same place. -/
theorem exists_getElem? {index : Nat} {item : α} (related : Forall₂ holds items results)
    (found : items[index]? = some item) :
    ∃ result, results[index]? = some result ∧ holds item result := by
  induction related generalizing index with
  | nil => cases found
  | cons first _ ih =>
      cases index with
      | zero =>
          obtain rfl := Option.some.inj found
          exact ⟨_, rfl, first⟩
      | succ index => exact ih found

theorem exists_of_mem {result : β} (related : Forall₂ holds items results)
    (member : result ∈ results) : ∃ item ∈ items, holds item result := by
  induction related with
  | nil => cases member
  | cons first _ ih =>
      rcases mem_cons.mp member with rfl | later
      · exact ⟨_, mem_cons_self, first⟩
      · obtain ⟨item, among, found⟩ := ih later
        exact ⟨item, mem_cons_of_mem _ among, found⟩

end List.Forall₂
