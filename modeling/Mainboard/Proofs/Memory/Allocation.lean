import Mainboard.Memory
import Mainboard.Proofs.Conditions
import Mathlib.Data.UInt

/-!
# Allocation is exact

What is carved out of regions and what is left over make up what was asked for,
and something is left over only if the regions are used up.  So an allocation
fails if and only if more is asked for than the regions hold together, counted
without a bound.
-/

namespace Mainboard.Memory

/-- The bytes that ranges hold together, counted without a bound. -/
def supply (ranges : List AddressRange) : Nat := (ranges.map (·.size.toNat)).sum

@[simp]
theorem supply_nil : supply [] = 0 :=
  rfl

@[simp]
theorem supply_cons (range : AddressRange) (ranges : List AddressRange) :
    supply (range :: ranges) = range.size.toNat + supply ranges := by
  simp [supply]

theorem toNat_sub_min (remaining size : UInt64) :
    (remaining - min remaining size).toNat = remaining.toNat - size.toNat := by
  rw [UInt64.toNat_sub_of_le, UInt64.toNat_min]
  · omega
  · rw [UInt64.le_iff_toNat_le, UInt64.toNat_min]
    omega

/-- The ranges that are carved out and what is left over make up what was asked for. -/
theorem supply_carve (remaining : UInt64) (regions : List AddressRange) :
    supply (carve remaining regions).1 + (carve remaining regions).2.toNat = remaining.toNat := by
  induction regions generalizing remaining with
  | nil => simp [carve]
  | cons region regions ih =>
      have later := ih (remaining - min remaining region.size)
      rw [toNat_sub_min] at later
      have taken := UInt64.toNat_min remaining region.size
      rw [carve]
      split
      next none => simp [none]
      next some =>
        dsimp only
        split
        next nothing =>
          rw [nothing, UInt64.toNat_zero] at taken
          dsimp only
          omega
        next =>
          rw [supply_cons]
          dsimp only
          omega

/-- What is left over is what the regions do not hold. -/
theorem toNat_left_carve (remaining : UInt64) (regions : List AddressRange) :
    (carve remaining regions).2.toNat = remaining.toNat - supply regions := by
  induction regions generalizing remaining with
  | nil => simp [carve]
  | cons region regions ih =>
      have later := ih (remaining - min remaining region.size)
      rw [toNat_sub_min] at later
      rw [carve, supply_cons]
      split
      next none => simp [none]
      next some =>
        dsimp only
        split <;> (dsimp only; omega)

/-- What allocation asks for. -/
def conditions (requested : UInt64) (regions : List AddressRange) : List Condition :=
  [⟨requested.toNat ≤ supply regions,
    .insufficientMemory requested (UInt64.ofNat (supply regions))⟩]

theorem obeys_allocate (requested : UInt64) (regions : List AddressRange) :
    Obeys (conditions requested regions) (allocate requested regions) := by
  have left := toNat_left_carve requested regions
  rw [allocate]
  dsimp only
  split
  next none =>
    rw [none, UInt64.toNat_zero] at left
    refine .ok ?_
    simp only [conditions, List.mem_singleton, forall_eq]
    omega
  next some =>
    have missing : (carve requested regions).2.toNat ≠ 0 := fun zero =>
      some (UInt64.toNat_inj.mp zero)
    have available : requested - (carve requested regions).2 = UInt64.ofNat (supply regions) := by
      apply UInt64.toNat_inj.mp
      have fits := requested.toNat_lt
      rw [UInt64.toNat_sub_of_le _ _ (by rw [UInt64.le_iff_toNat_le]; omega),
        UInt64.toNat_ofNat_of_lt' (by rw [UInt64.size]; omega)]
      omega
    rw [available]
    exact .error (.here (by dsimp only; omega))

/-- The ranges that are allocated hold what was asked for. -/
theorem supply_of_allocate {requested : UInt64} {regions ranges : List AddressRange}
    (allocated : allocate requested regions = .ok ranges) : supply ranges = requested.toNat := by
  have carved := supply_carve requested regions
  rw [allocate] at allocated
  dsimp only at allocated
  split at allocated
  next none =>
    obtain rfl := Except.ok.inj allocated
    rw [← carved, none, UInt64.toNat_zero, Nat.add_zero]
  next => cases allocated

/-- A sum of sizes that fits into a word is exact. -/
theorem toNat_total {ranges : List AddressRange} (fits : supply ranges < UInt64.size) :
    (total ranges).toNat = supply ranges := by
  induction ranges with
  | nil => rfl
  | cons range ranges ih =>
      rw [supply_cons] at fits ⊢
      have rest : (total ranges).toNat = supply ranges := ih (by omega)
      have sum : total (range :: ranges) = range.size + total ranges := rfl
      rw [sum, UInt64.toNat_add, rest, Nat.mod_eq_of_lt (by rw [UInt64.size] at fits; omega)]

theorem total_of_allocate {requested : UInt64} {regions ranges : List AddressRange}
    (allocated : allocate requested regions = .ok ranges) : total ranges = requested := by
  have held := supply_of_allocate allocated
  apply UInt64.toNat_inj.mp
  rw [toNat_total (by rw [held]; exact requested.toNat_lt), held]

end Mainboard.Memory
