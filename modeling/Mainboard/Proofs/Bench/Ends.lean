import Mainboard.Proofs.Results
import Mainboard.Run.Driver
import Mathlib.Logic.Relation

/-!
# How actions end

An action at a bench ends with a value or with a halt, and leaves a bench
behind.  This file says so for each way of putting actions together, so that
what an action does is read off its text without running it.
-/

namespace Mainboard

namespace Bench

variable {σ : Type}

/-- What is entered in the ledger when a call is made at a bench. -/
def entry (bench : Bench σ) (engine : Engine σ) (call : Call) : LedgerEntry where
  call
  answer := (engine.answer call bench.engine).1
  tick := engine.tick bench.engine
  controller := bench.controller

/-- The bench once a call is made and entered in the ledger. -/
def record (bench : Bench σ) (engine : Engine σ) (call : Call) : Bench σ :=
  { bench with
    engine := (engine.answer call bench.engine).2
    ledger := bench.ledger ++ [bench.entry engine call] }

@[simp]
theorem controller_record (bench : Bench σ) (engine : Engine σ) (call : Call) :
    (bench.record engine call).controller = bench.controller :=
  rfl

@[simp]
theorem ledger_record (bench : Bench σ) (engine : Engine σ) (call : Call) :
    (bench.record engine call).ledger = bench.ledger ++ [bench.entry engine call] :=
  rfl

end Bench

namespace Action

variable {σ α β : Type}

/-- An action started at one bench ends with a result at another. -/
def Ends (action : Action σ α) (before : Bench σ) : Except Halt α → Bench σ → Prop
  | .ok value, after => action before = .ok value after
  | .error halt, after => action before = .error halt after

theorem Ends.unique {action : Action σ α} {before first second : Bench σ}
    {one other : Except Halt α} (oneEnds : Ends action before one first)
    (otherEnds : Ends action before other second) : one = other ∧ first = second := by
  cases one <;> cases other <;> simp only [Ends] at oneEnds otherEnds <;>
    rw [oneEnds] at otherEnds <;> simp_all

theorem exists_ends (action : Action σ α) (before : Bench σ) :
    ∃ result after, Ends action before result after := by
  cases ended : action before with
  | ok value after => exact ⟨.ok value, after, ended⟩
  | error halt after => exact ⟨.error halt, after, ended⟩

/-- Whether an action ends with a value that passes a test. -/
def yields (action : Action σ α) (before : Bench σ) (test : α → Bool) : Bool :=
  match action before with
  | .ok value _ => test value
  | .error .. => false

theorem exists_ends_of_yields {action : Action σ α} {before : Bench σ} {test : α → Bool}
    (passed : yields action before test = true) :
    ∃ value after, Ends action before (.ok value) after ∧ test value = true := by
  cases ended : action before with
  | ok value after =>
      rw [yields, ended] at passed
      exact ⟨value, after, ended, passed⟩
  | error halt after =>
      rw [yields, ended] at passed
      cases passed

section Shapes

variable {before after : Bench σ} {result : Except Halt α}

theorem ends_pure_iff {value : α} :
    Ends (pure value) before result after ↔ result = .ok value ∧ after = before := by
  cases result <;> simp [Ends, pure, EStateM.pure, eq_comm]

theorem ends_throw_iff {halt : Halt} :
    Ends (throw halt : Action σ α) before result after ↔
      result = .error halt ∧ after = before := by
  have thrown : (throw halt : Action σ α) before = .error halt before := rfl
  cases result with
  | ok value => simp [Ends, thrown]
  | error other => simp [Ends, thrown, eq_comm]

theorem ends_fail_iff {error : Error} :
    Ends (fail error : Action σ α) before result after ↔
      result = .error (.failed error) ∧ after = before :=
  ends_throw_iff

theorem ends_get_bind_iff {next : Bench σ → Action σ α} :
    Ends (get >>= next) before result after ↔ Ends (next before) before result after := by
  cases result <;> rfl

theorem ends_ofExcept_iff {outcome : Except Error α} :
    Ends (ofExcept outcome : Action σ α) before result after ↔
      result = outcome.mapError .failed ∧ after = before := by
  cases outcome with
  | ok value => exact ends_pure_iff
  | error error => exact ends_fail_iff

theorem ends_bind_iff {first : Action σ β} {next : β → Action σ α} :
    Ends (first >>= next) before result after ↔
      (∃ halt, result = .error halt ∧ Ends first before (.error halt) after) ∨
        ∃ value middle, Ends first before (.ok value) middle ∧
          Ends (next value) middle result after := by
  cases ended : first before with
  | ok value middle =>
      have continued : (first >>= next) before = next value middle := by
        simp only [bind, EStateM.bind, ended]
      constructor
      · intro bound
        refine Or.inr ⟨value, middle, ended, ?_⟩
        cases result <;> simpa only [Ends, continued] using bound
      · rintro (⟨halt, -, stopped⟩ | ⟨other, between, reached, bound⟩)
        · simp [Ends, ended] at stopped
        · obtain ⟨rfl, rfl⟩ : value = other ∧ middle = between := by
            simpa [Ends, ended] using reached
          cases result <;> simpa only [Ends, continued] using bound
  | error halt middle =>
      have stopped : (first >>= next) before = .error halt middle := by
        simp only [bind, EStateM.bind, ended]
      constructor
      · intro bound
        cases result with
        | ok value => simp [Ends, stopped] at bound
        | error other =>
            obtain ⟨rfl, rfl⟩ : halt = other ∧ middle = after := by
              simpa [Ends, stopped] using bound
            exact Or.inl ⟨halt, rfl, ended⟩
      · rintro (⟨other, rfl, same⟩ | ⟨value, between, reached, -⟩)
        · obtain ⟨rfl, rfl⟩ : halt = other ∧ middle = after := by
            simpa [Ends, ended] using same
          exact stopped
        · simp [Ends, ended] at reached

theorem ends_bind_ok_iff {first : Action σ β} {next : β → Action σ α} {value : α} :
    Ends (first >>= next) before (.ok value) after ↔
      ∃ earlier middle, Ends first before (.ok earlier) middle ∧
        Ends (next earlier) middle (.ok value) after := by
  simp only [ends_bind_iff, reduceCtorEq, false_and, exists_false, false_or]

theorem ends_pure_ok_iff {given value : α} :
    Ends (pure given) before (.ok value) after ↔ value = given ∧ after = before := by
  rw [ends_pure_iff, Except.ok.injEq]

theorem ends_set_bind_iff {bench : Bench σ} {next : PUnit → Action σ α} :
    Ends (set bench >>= next) before result after ↔
      Ends (next PUnit.unit) bench result after := by
  cases result <;> rfl

theorem ends_change_iff {update : Controller → Except Error Controller} {done : Except Halt Unit} :
    Ends (change update : Action σ Unit) before done after ↔
      (∃ controller, update before.controller = .ok controller ∧ done = .ok () ∧
          after = { before with controller }) ∨
        ∃ error, update before.controller = .error error ∧
          done = .error (.failed error) ∧ after = before := by
  rw [change, ends_get_bind_iff, ends_bind_iff]
  cases update before.controller with
  | ok controller =>
      constructor
      · rintro (⟨halt, -, impossible⟩ | ⟨other, middle, updated, replaced⟩)
        · exact absurd impossible (by simp [Ends, ofExcept, pure, EStateM.pure])
        · obtain ⟨same, rfl⟩ := ends_pure_iff.mp updated
          obtain rfl := Except.ok.inj same
          exact Or.inl ⟨other, rfl, ends_pure_iff.mp replaced⟩
      · rintro (⟨other, same, rfl, rfl⟩ | ⟨error, impossible, -⟩)
        · obtain rfl := Except.ok.inj same
          exact Or.inr ⟨controller, before, ends_pure_iff.mpr ⟨rfl, rfl⟩,
            ends_pure_iff.mpr ⟨rfl, rfl⟩⟩
        · cases impossible
  | error error =>
      constructor
      · rintro (⟨halt, rfl, refused⟩ | ⟨other, middle, impossible, -⟩)
        · obtain ⟨same, rfl⟩ := ends_fail_iff.mp refused
          exact Or.inr ⟨error, rfl, congrArg Except.error (Except.error.inj same), rfl⟩
        · exact absurd (ends_fail_iff.mp impossible).1 (by simp)
      · rintro (⟨other, impossible, -⟩ | ⟨other, same, rfl, rfl⟩)
        · cases impossible
        · obtain rfl := Except.error.inj same
          exact Or.inl ⟨_, rfl, ends_fail_iff.mpr ⟨rfl, rfl⟩⟩

theorem ends_change_of_ok {update : Controller → Except Error Controller} {controller : Controller}
    {done : Except Halt Unit} (updated : update before.controller = .ok controller)
    (ended : Ends (change update : Action σ Unit) before done after) :
    done = .ok () ∧ after = { before with controller } := by
  obtain ⟨other, same, rfl, rfl⟩ | ⟨error, refused, -⟩ := ends_change_iff.mp ended
  · obtain rfl := Except.ok.inj (updated.symm.trans same)
    exact ⟨rfl, rfl⟩
  · cases updated.symm.trans refused

end Shapes

section Calls

variable {engine : Engine σ} {before after : Bench σ}

theorem ends_attempt_iff {call : Call} {result : Except Halt (Except String call.Answer)} :
    Ends (attempt engine call) before result after ↔
      result = .ok (engine.answer call before.engine).1 ∧ after = before.record engine call := by
  rw [attempt, ends_get_bind_iff]
  exact ends_set_bind_iff.trans ends_pure_iff

theorem ends_call_iff {call : Call} {result : Except Halt call.Answer} :
    Ends (Action.call engine call) before result after ↔
      result = (engine.answer call before.engine).1.mapError (.failed ∘ .engine) ∧
        after = before.record engine call := by
  simp only [Action.call, ends_bind_iff, ends_attempt_iff, reduceCtorEq, false_and, and_false,
    exists_false, false_or, Except.ok.injEq]
  constructor
  · rintro ⟨answer, middle, ⟨rfl, rfl⟩, settled⟩
    cases answered : (engine.answer call before.engine).1 with
    | ok value =>
        rw [answered] at settled
        exact ends_pure_iff.mp settled
    | error message =>
        rw [answered] at settled
        exact ends_fail_iff.mp settled
  · rintro ⟨rfl, rfl⟩
    refine ⟨_, _, ⟨rfl, rfl⟩, ?_⟩
    cases (engine.answer call before.engine).1 with
    | ok value => exact ends_pure_iff.mpr ⟨rfl, rfl⟩
    | error message => exact ends_fail_iff.mpr ⟨rfl, rfl⟩

theorem ends_call_ok_iff {call : Call} {value : call.Answer} :
    Ends (Action.call engine call) before (.ok value) after ↔
      (engine.answer call before.engine).1 = .ok value ∧ after = before.record engine call := by
  rw [ends_call_iff, eq_comm, Except.mapError_eq_ok_iff]

/-- A call that succeeds is followed by what is done with its answer. -/
theorem ends_call_bind_iff {call : Call} {answer : call.Answer}
    {next : call.Answer → Action σ α} {result : Except Halt α}
    (answered : (engine.answer call before.engine).1 = .ok answer) :
    Ends (Action.call engine call >>= next) before result after ↔
      Ends (next answer) (before.record engine call) result after := by
  have called : Ends (Action.call engine call) before (.ok answer) (before.record engine call) :=
    ends_call_ok_iff.mpr ⟨answered, rfl⟩
  constructor
  · intro ended
    obtain ⟨halt, -, failed⟩ | ⟨value, middle, reached, onward⟩ := ends_bind_iff.mp ended
    · cases (called.unique failed).1
    · obtain ⟨same, rfl⟩ := called.unique reached
      obtain rfl := Except.ok.inj same
      exact onward
  · exact fun onward => ends_bind_iff.mpr (.inr ⟨answer, _, called, onward⟩)

end Calls

section Loops

variable {before after : Bench σ} {body : β → Action σ PUnit}

/-- What every round of a loop carries on from the items before it holds of
all items at the end. -/
theorem forM_induction {items : List β} (carried : List β → Bench σ → Prop)
    (start : carried [] before)
    (round : ∀ done item middle next, carried done middle →
      Ends (body item) middle (.ok ()) next → carried (done ++ [item]) next)
    (ended : Ends (items.forM body) before (.ok ()) after) : carried items after := by
  suffices general : ∀ done middle, carried done middle →
      Ends (items.forM body) middle (.ok ()) after → carried (done ++ items) after from
    general [] before start ended
  clear ended
  induction items with
  | nil =>
      intro done middle holds ended
      obtain ⟨-, rfl⟩ := ends_pure_iff.mp ended
      simpa using holds
  | cons item items ih =>
      intro done middle holds ended
      obtain ⟨halt, impossible, -⟩ | ⟨_, next, first, rest⟩ := ends_bind_iff.mp ended
      · cases impossible
      · have carriedOn := ih (done ++ [item]) next (round done item middle next holds first) rest
        simpa using carriedOn

end Loops

end Action

end Mainboard
