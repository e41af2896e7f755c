import Mainboard.Error

/-!
# Fidelity sequences

The core models a run switches through, in order.  A sequence is not empty and
names no model twice, so that a model has one position in it.
-/

namespace Mainboard

/-- The core models of a run, from the one that clusters are composed from on. -/
structure FidelitySequence where
  models : List CoreModel
  nonempty : models ≠ []
  distinct : models.Nodup
  deriving DecidableEq

namespace FidelitySequence

def firstRepeated? (named : List CoreModel) : List CoreModel → Option CoreModel
  | [] => none
  | model :: models =>
      if model ∈ named then some model else firstRepeated? (model :: named) models

theorem nodup_of_firstRepeated? {named models : List CoreModel}
    (fresh : firstRepeated? named models = none) :
    models.Nodup ∧ ∀ model ∈ models, model ∉ named := by
  induction models generalizing named with
  | nil => simp
  | cons model models ih =>
      rw [firstRepeated?] at fresh
      split at fresh
      · simp at fresh
      · next unnamed =>
          obtain ⟨distinct, apart⟩ := ih fresh
          constructor
          · rw [List.nodup_cons]
            exact ⟨fun again => apart model again (by simp), distinct⟩
          · intro other member
            rcases List.mem_cons.mp member with rfl | later
            · exact unnamed
            · exact fun listed => apart other later (List.mem_cons_of_mem _ listed)

def ofModels (models : List CoreModel) : Except Error FidelitySequence :=
  if nonempty : models = [] then .error (.invalid .emptySequence)
  else
    match repeated : firstRepeated? [] models with
    | some model => .error (.invalid (.repeatedModel model))
    | none => .ok ⟨models, nonempty, (nodup_of_firstRepeated? repeated).1⟩

/-- The sequence of a run whose sequence is not given. -/
def standard : FidelitySequence :=
  ⟨[.atomic, .timing, .outOfOrder], by decide, by decide⟩

def first (sequence : FidelitySequence) : CoreModel := sequence.models.head sequence.nonempty

def position? (sequence : FidelitySequence) (model : CoreModel) : Option Nat :=
  sequence.models.idxOf? model

def model? (sequence : FidelitySequence) (position : Nat) : Option CoreModel :=
  sequence.models[position]?

def length (sequence : FidelitySequence) : Nat := sequence.models.length

@[simp]
theorem model?_zero (sequence : FidelitySequence) : sequence.model? 0 = some sequence.first := by
  rw [model?, first, List.head_eq_getElem, List.getElem?_eq_getElem]

theorem isSome_model?_iff (sequence : FidelitySequence) (position : Nat) :
    (sequence.model? position).isSome ↔ position < sequence.length := by
  simp [model?, length]

end FidelitySequence

end Mainboard
