import Mainboard.Platform
import Mainboard.Proofs.Memory.Allocation

/-!
# Regions in their order

An allocation takes the regions that are not empty one after another: all but
the last one that it uses whole, and of that one its first bytes.  The capacity
of a platform stops at the largest word, but no request is above that, so a
request fits into the capacity if and only if it fits into the regions.  A
request that does not fit is above a capacity that is exact.
-/

namespace Mainboard.Memory

/-- The regions that hold any bytes. -/
def inhabited (regions : List AddressRange) : List AddressRange :=
  regions.filter fun region => !region.isEmpty

/-- Ranges that take the first of some regions in order: none of them, or some whole and of the
next one at least a byte, from its start on. -/
inductive TakesFirst (regions : List AddressRange) : List AddressRange → Prop
  | nothing : TakesFirst regions []
  | upTo {whole later : List AddressRange} {last part : AddressRange}
      (regions_eq : regions = whole ++ last :: later) (start_eq : part.start = last.start)
      (positive : 0 < part.size) (within : part.size ≤ last.size) :
      TakesFirst regions (whole ++ [part])

theorem TakesFirst.cons {region : AddressRange} {regions ranges : List AddressRange}
    (positive : 0 < region.size) (takes : TakesFirst regions ranges) :
    TakesFirst (region :: regions) (region :: ranges) := by
  cases takes with
  | nothing => exact @TakesFirst.upTo _ [] _ _ region rfl rfl positive (UInt64.le_refl _)
  | upTo regions_eq start_eq some within =>
      rw [regions_eq]
      exact @TakesFirst.upTo _ (region :: _) _ _ _ rfl start_eq some within

theorem inhabited_cons_of_empty {region : AddressRange} (regions : List AddressRange)
    (empty : region.size = 0) : inhabited (region :: regions) = inhabited regions := by
  simp [inhabited, AddressRange.isEmpty, empty]

theorem inhabited_cons_of_pos {region : AddressRange} (regions : List AddressRange)
    (positive : 0 < region.size) :
    inhabited (region :: regions) = region :: inhabited regions := by
  have some : region.size ≠ 0 := UInt64.pos_iff_ne_zero.mp positive
  simp [inhabited, AddressRange.isEmpty, some]

theorem takesFirst_carve (remaining : UInt64) (regions : List AddressRange) :
    TakesFirst (inhabited regions) (carve remaining regions).1 := by
  induction regions generalizing remaining with
  | nil => exact .nothing
  | cons region regions ih =>
      have taken := UInt64.toNat_min remaining region.size
      rw [carve]
      split
      next => exact .nothing
      next asked =>
        dsimp only
        split
        next nothing =>
          have wanted : 0 < remaining.toNat := UInt64.lt_iff_toNat_lt.mp (UInt64.pos_iff_ne_zero.mpr asked)
          have empty : region.size = 0 := by
            apply UInt64.toNat_inj.mp
            rw [nothing] at taken
            rw [UInt64.toNat_zero] at taken ⊢
            omega
          rw [inhabited_cons_of_empty regions empty]
          exact ih _
        next some =>
          have positive : 0 < region.size := by
            rw [UInt64.pos_iff_ne_zero]
            intro empty
            apply some
            apply UInt64.toNat_inj.mp
            rw [taken, empty, UInt64.toNat_zero, Nat.min_zero]
          rw [inhabited_cons_of_pos regions positive]
          -- A region that is not taken whole is the last: nothing remains to be taken after it.
          rcases UInt64.le_total region.size remaining with whole | part
          · have all : min remaining region.size = region.size := by
              apply UInt64.toNat_inj.mp
              rw [taken, Nat.min_eq_right (UInt64.le_iff_toNat_le.mp whole)]
            rw [all]
            exact (ih _).cons positive
          · have all : min remaining region.size = remaining := by
              apply UInt64.toNat_inj.mp
              rw [taken, Nat.min_eq_left (UInt64.le_iff_toNat_le.mp part)]
            rw [all, UInt64.sub_self, carve_zero]
            exact @TakesFirst.upTo _ [] _ region _ rfl rfl (UInt64.pos_iff_ne_zero.mpr asked) part

theorem takesFirst_of_allocate {requested : UInt64} {regions ranges : List AddressRange}
    (allocated : allocate requested regions = .ok ranges) :
    TakesFirst (inhabited regions) ranges := by
  have carved := takesFirst_carve requested regions
  rw [allocate] at allocated
  dsimp only at allocated
  split at allocated
  next =>
    obtain rfl := Except.ok.inj allocated
    exact carved
  next => cases allocated

theorem toNat_foldl_saturatingAdd (regions : List AddressRange) (start : UInt64) :
    (regions.foldl (fun sum region => saturatingAdd sum region.size) start).toNat =
      min (start.toNat + supply regions) (UInt64.size - 1) := by
  have bounded := start.toNat_lt
  induction regions generalizing start with
  | nil =>
      rw [List.foldl_nil, supply_nil, UInt64.size]
      omega
  | cons region regions ih =>
      rw [List.foldl_cons, ih _ (UInt64.toNat_lt _), toNat_saturatingAdd, supply_cons]
      omega

/-- The capacity of regions is what they hold, up to the largest word. -/
theorem toNat_capacity (regions : List AddressRange) :
    (capacity regions).toNat = min (supply regions) (UInt64.size - 1) := by
  rw [capacity, toNat_foldl_saturatingAdd, UInt64.toNat_zero, Nat.zero_add]

/-- A request fits into the regions if and only if it fits into the capacity. -/
theorem le_capacity_iff (requested : UInt64) (regions : List AddressRange) :
    requested ≤ capacity regions ↔ requested.toNat ≤ supply regions := by
  have bounded := requested.toNat_lt
  rw [UInt64.le_iff_toNat_le, toNat_capacity, UInt64.size]
  omega

theorem supply_append (front later : List AddressRange) :
    supply (front ++ later) = supply front + supply later := by
  rw [supply, List.map_append, List.sum_append]
  rfl

theorem supply_take_le (ranges : List AddressRange) (count : Nat) :
    supply (ranges.take count) ≤ supply ranges := by
  have split := supply_append (ranges.take count) (ranges.drop count)
  rw [List.take_append_drop] at split
  omega

theorem exists_allocate_iff (requested : UInt64) (regions : List AddressRange) :
    (∃ ranges, allocate requested regions = .ok ranges) ↔ requested.toNat ≤ supply regions := by
  rw [(obeys_allocate requested regions).exists_ok_iff, conditions, List.forall_mem_singleton]

/-- A request that is refused is above what the regions hold, which is in the error. -/
theorem error_of_allocate {requested : UInt64} {regions : List AddressRange} {error : Error}
    (refused : allocate requested regions = .error error) :
    error = .insufficientMemory requested (capacity regions) ∧
      (capacity regions).toNat = supply regions := by
  obtain ⟨condition, member, fails, rfl⟩ :=
    ((obeys_allocate requested regions).eq_error_iff.mp refused).exists_violated
  obtain rfl := List.mem_singleton.mp member
  have above : supply regions < requested.toNat := not_le.mp fails
  have fits : supply regions < UInt64.size := above.trans requested.toNat_lt
  have exact : (capacity regions).toNat = supply regions := by
    rw [toNat_capacity]
    omega
  refine ⟨?_, exact⟩
  rw [← exact, UInt64.ofNat_toNat]

/-- An allocation succeeds if and only if the regions hold what is asked for, which is if and
only if the capacity of their platform is not below it.  It takes the first of the regions that
are not empty, exactly what was asked for and without a sum that wraps around.  Otherwise the
error says what was asked for and what the platform holds. -/
theorem allocate_takes_first_regions (requested : UInt64) (platform : Platform) :
    ((∃ ranges, allocate requested platform.regions = .ok ranges) ↔
      requested.toNat ≤ supply platform.regions) ∧
    ((∃ ranges, allocate requested platform.regions = .ok ranges) ↔
      requested ≤ platform.capacity) ∧
    (∀ ranges, allocate requested platform.regions = .ok ranges →
      TakesFirst (inhabited platform.regions) ranges ∧ total ranges = requested ∧
      ∀ count, supply (ranges.take count) < UInt64.size ∧
        (total (ranges.take count)).toNat = supply (ranges.take count)) ∧
    ∀ error, allocate requested platform.regions = .error error →
      error = .insufficientMemory requested platform.capacity ∧
      platform.capacity.toNat = supply platform.regions := by
  have succeeds := exists_allocate_iff requested platform.regions
  refine ⟨succeeds, succeeds.trans (le_capacity_iff requested platform.regions).symm, ?_, ?_⟩
  · intro ranges allocated
    refine ⟨takesFirst_of_allocate allocated, total_of_allocate allocated, fun count => ?_⟩
    have fits : supply (ranges.take count) < UInt64.size := by
      have below := supply_take_le ranges count
      rw [supply_of_allocate allocated] at below
      exact below.trans_lt requested.toNat_lt
    exact ⟨fits, toNat_total fits⟩
  · intro error refused
    exact error_of_allocate refused

/-- A platform with two regions of a kibibyte after an empty one. -/
def twoKibibytes : Platform := .custom "spread" [⟨0, 0⟩, ⟨4096, 1024⟩, ⟨8192, 1024⟩]

theorem allocate_takes_first_regions_twoKibibytes :
    (TakesFirst (inhabited twoKibibytes.regions) [⟨4096, 1024⟩, ⟨8192, 476⟩] ∧
      total [⟨4096, 1024⟩, ⟨8192, 476⟩] = 1500) ∧
    allocate 4096 twoKibibytes.regions = .error (.insufficientMemory 4096 twoKibibytes.capacity) ∧
    twoKibibytes.capacity.toNat = 2048 := by
  obtain ⟨-, -, allocated, -⟩ := allocate_takes_first_regions 1500 twoKibibytes
  obtain ⟨takes, exact, -⟩ := allocated [⟨4096, 1024⟩, ⟨8192, 476⟩] rfl
  obtain ⟨-, -, -, refused⟩ := allocate_takes_first_regions 4096 twoKibibytes
  obtain ⟨-, held⟩ := refused (.insufficientMemory 4096 2048) rfl
  exact ⟨⟨takes, exact⟩, rfl, held⟩

end Mainboard.Memory
