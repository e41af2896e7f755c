import Mainboard.Proofs.Memory.Regions
import Mainboard.Proofs.Topology.Composition
import Mathlib.Data.Finset.Card
import Mathlib.Order.Interval.Finset.Nat

/-!
# Addresses of ranges

The sizes of ranges add up to the number of addresses that they cover if and
only if the ranges are distinct memory: no address belongs to two of them, and
none passes the top of the address space.  Allocation keeps regions distinct
that are, such as those of the known platforms, but composition does not ask it
of regions that are configured.  A machine may have been given more memory than
its ranges cover.
-/

namespace Mainboard

namespace AddressRange

/-- The end of a range, counted without a bound. -/
def bound (range : AddressRange) : Nat := range.start.toNat + range.size.toNat

/-- The addresses of a range, as far as the address space goes. -/
def addresses (range : AddressRange) : Finset Nat :=
  Finset.Ico range.start.toNat (min range.bound UInt64.size)

variable {left right range : AddressRange}

theorem mem_addresses_iff {address : Nat} :
    address ∈ range.addresses ↔
      range.start.toNat ≤ address ∧ address < range.bound ∧ address < UInt64.size := by
  rw [addresses, Finset.mem_Ico, lt_min_iff]

theorem card_addresses_le (range : AddressRange) : range.addresses.card ≤ range.size.toNat := by
  rw [addresses, Nat.card_Ico, bound]
  omega

theorem card_addresses_eq_iff :
    range.addresses.card = range.size.toNat ↔ range.bound ≤ UInt64.size := by
  have inside : range.start.toNat < UInt64.size := range.start.toNat_lt
  rw [addresses, Nat.card_Ico, bound]
  omega

theorem addresses_of_empty (empty : range.size = 0) : range.addresses = ∅ := by
  have none := card_addresses_le range
  rw [empty, UInt64.toNat_zero] at none
  exact Finset.card_eq_zero.mp (by omega)

/-- A range that ends where the other starts, or before, has no address in common with it. -/
theorem disjoint_addresses_of_le (before : left.bound ≤ right.start.toNat) :
    Disjoint left.addresses right.addresses := by
  rw [Finset.disjoint_left]
  intro address inLeft inRight
  have below := (mem_addresses_iff.mp inLeft).2.1
  have above := (mem_addresses_iff.mp inRight).1
  omega

theorem addresses_subset (start_eq : left.start = right.start) (within : left.size ≤ right.size) :
    left.addresses ⊆ right.addresses := by
  intro address member
  obtain ⟨above, below, inSpace⟩ := mem_addresses_iff.mp member
  have smaller := UInt64.le_iff_toNat_le.mp within
  rw [start_eq] at above
  rw [bound, start_eq] at below
  exact mem_addresses_iff.mpr ⟨above, by rw [bound]; omega, inSpace⟩

end AddressRange

namespace Memory

/-- The addresses that some range covers. -/
def covered : List AddressRange → Finset Nat
  | [] => ∅
  | range :: ranges => range.addresses ∪ covered ranges

/-- Ranges that are distinct memory: no address belongs to two of them, and none of them passes
the top of the address space. -/
structure IsDistinct (ranges : List AddressRange) : Prop where
  apart : ranges.Pairwise fun left right => Disjoint left.addresses right.addresses
  bounded : ∀ range ∈ ranges, range.bound ≤ UInt64.size

variable {range : AddressRange} {regions ranges : List AddressRange}

theorem disjoint_covered_iff :
    Disjoint range.addresses (covered ranges) ↔
      ∀ other ∈ ranges, Disjoint range.addresses other.addresses := by
  induction ranges with
  | nil => simp [covered]
  | cons first ranges ih => rw [covered, Finset.disjoint_union_right, ih, List.forall_mem_cons]

theorem isDistinct_cons_iff :
    IsDistinct (range :: ranges) ↔
      range.bound ≤ UInt64.size ∧ Disjoint range.addresses (covered ranges) ∧
        IsDistinct ranges := by
  rw [disjoint_covered_iff]
  constructor
  · intro distinct
    obtain ⟨first, others⟩ := List.pairwise_cons.mp distinct.apart
    obtain ⟨top, rest⟩ := List.forall_mem_cons.mp distinct.bounded
    exact ⟨top, first, others, rest⟩
  · rintro ⟨top, first, distinct⟩
    exact ⟨List.pairwise_cons.mpr ⟨first, distinct.apart⟩,
      List.forall_mem_cons.mpr ⟨top, distinct.bounded⟩⟩

theorem card_covered_le (ranges : List AddressRange) : (covered ranges).card ≤ supply ranges := by
  induction ranges with
  | nil => rfl
  | cons range ranges ih =>
      rw [covered, supply_cons]
      exact (Finset.card_union_le _ _).trans (Nat.add_le_add range.card_addresses_le ih)

/-- Ranges cover as many addresses as their sizes add up to if and only if they are distinct. -/
theorem card_covered_eq_iff (ranges : List AddressRange) :
    (covered ranges).card = supply ranges ↔ IsDistinct ranges := by
  induction ranges with
  | nil => exact iff_of_true rfl ⟨.nil, by simp⟩
  | cons range ranges ih =>
      -- The sizes count too much what passes the top, and what the range shares with the others.
      have both := Finset.card_union_add_card_inter range.addresses (covered ranges)
      have first := range.card_addresses_le
      have others := card_covered_le ranges
      rw [isDistinct_cons_iff, ← ih, ← AddressRange.card_addresses_eq_iff,
        Finset.disjoint_iff_inter_eq_empty, ← Finset.card_eq_zero, covered, supply_cons]
      omega

/-- Ranges that come one after another, up to the top at most, are distinct. -/
theorem isDistinct_of_ordered
    (ordered : ranges.Pairwise fun left right => left.bound ≤ right.start.toNat)
    (bounded : ∀ range ∈ ranges, range.bound ≤ UInt64.size) : IsDistinct ranges :=
  ⟨ordered.imp AddressRange.disjoint_addresses_of_le, bounded⟩

theorem isDistinct_preset (kind : PlatformKind) : IsDistinct (Platform.preset kind).regions := by
  apply isDistinct_of_ordered
  · cases kind <;> decide
  · cases kind <;> decide

theorem supply_inhabited (regions : List AddressRange) :
    supply (inhabited regions) = supply regions := by
  induction regions with
  | nil => rfl
  | cons region regions ih =>
      by_cases empty : region.size = 0
      · rw [inhabited_cons_of_empty regions empty, ih, supply_cons, empty, UInt64.toNat_zero,
          Nat.zero_add]
      · rw [inhabited_cons_of_pos regions (UInt64.pos_iff_ne_zero.mpr empty), supply_cons,
          supply_cons, ih]

theorem covered_inhabited (regions : List AddressRange) :
    covered (inhabited regions) = covered regions := by
  induction regions with
  | nil => rfl
  | cons region regions ih =>
      by_cases empty : region.size = 0
      · rw [inhabited_cons_of_empty regions empty, ih, covered,
          AddressRange.addresses_of_empty empty, Finset.empty_union]
      · rw [inhabited_cons_of_pos regions (UInt64.pos_iff_ne_zero.mpr empty), covered, covered, ih]

/-- Empty regions are distinct from everything. -/
theorem isDistinct_inhabited_iff : IsDistinct (inhabited regions) ↔ IsDistinct regions := by
  rw [← card_covered_eq_iff, ← card_covered_eq_iff, supply_inhabited, covered_inhabited]

theorem IsDistinct.takesFirst (distinct : IsDistinct regions) (takes : TakesFirst regions ranges) :
    IsDistinct ranges := by
  cases takes with
  | nothing => exact ⟨.nil, by simp⟩
  | @upTo whole later last part regions_eq start_eq positive within =>
      have subset := AddressRange.addresses_subset start_eq within
      obtain ⟨apart, bounded⟩ := distinct
      rw [regions_eq] at apart bounded
      obtain ⟨before, -, between⟩ := List.pairwise_append.mp apart
      obtain ⟨below, rest⟩ := List.forall_mem_append.mp bounded
      constructor
      · refine List.pairwise_append.mpr ⟨before, List.pairwise_singleton .., ?_⟩
        intro range among final isPart
        obtain rfl := List.mem_singleton.mp isPart
        exact (between range among last List.mem_cons_self).mono_right subset
      · refine List.forall_mem_append.mpr ⟨below, ?_⟩
        rw [List.forall_mem_singleton]
        have top := rest last List.mem_cons_self
        have smaller := UInt64.le_iff_toNat_le.mp within
        rw [AddressRange.bound, start_eq]
        rw [AddressRange.bound] at top
        omega

/-- Ranges that take the first of some regions, none of them empty, and hold as much as all of
them together are all of them. -/
theorem TakesFirst.eq_of_supply (filled : ∀ region ∈ regions, 0 < region.size)
    (takes : TakesFirst regions ranges) (all : supply ranges = supply regions) :
    ranges = regions := by
  cases takes with
  | nothing =>
      cases regions with
      | nil => rfl
      | cons region regions =>
          have some := UInt64.lt_iff_toNat_lt.mp (filled region List.mem_cons_self)
          rw [supply_nil, supply_cons] at all
          omega
  | @upTo whole later last part regions_eq start_eq positive within =>
      have smaller := UInt64.le_iff_toNat_le.mp within
      rw [regions_eq, supply_append, supply_append, supply_cons, supply_cons, supply_nil] at all
      have sizes : part.size = last.size := by
        apply UInt64.toNat_inj.mp
        omega
      have same : part = last :=
        calc part = ⟨part.start, part.size⟩ := rfl
          _ = ⟨last.start, last.size⟩ := by rw [start_eq, sizes]
      cases later with
      | nil => rw [regions_eq, same]
      | cons next later =>
          have member : next ∈ regions := by simp [regions_eq]
          have some := UInt64.lt_iff_toNat_lt.mp (filled next member)
          rw [supply_cons] at all
          omega

theorem pos_of_mem_inhabited {region : AddressRange} (member : region ∈ inhabited regions) :
    0 < region.size := by
  have filled := (List.mem_filter.mp member).2
  rw [Bool.not_eq_true', AddressRange.isEmpty, beq_eq_false_iff_ne] at filled
  exact UInt64.pos_iff_ne_zero.mpr filled

/-- Ranges that are allocated of distinct regions are distinct.  If the regions are used up, then
only those are. -/
theorem isDistinct_of_allocate {requested : UInt64}
    (allocated : allocate requested regions = .ok ranges) :
    (IsDistinct regions → IsDistinct ranges) ∧
      (requested.toNat = supply regions → (IsDistinct ranges ↔ IsDistinct regions)) := by
  have takes := takesFirst_of_allocate allocated
  constructor
  · intro distinct
    exact (isDistinct_inhabited_iff.mpr distinct).takesFirst takes
  · intro all
    have same : ranges = inhabited regions := by
      apply takes.eq_of_supply fun region member => pos_of_mem_inhabited member
      rw [supply_of_allocate allocated, all, supply_inhabited]
    rw [same, isDistinct_inhabited_iff]

end Memory

namespace Configuration

variable {configuration : Configuration} {topology : Topology}

/-- The ranges of a machine are allocated of its platform, for the memory that is configured. -/
theorem allocate_of_topology (accepted : configuration.topology = .ok topology) :
    topology.requestedMemory = configuration.memorySize ∧
      Memory.allocate configuration.memorySize.bytes configuration.machinePlatform.regions =
        .ok topology.memoryRanges := by
  obtain ⟨empty, blueprint, started, filled, assembled⟩ := topology_eq_ok accepted
  obtain ⟨ranges, allocated, rfl⟩ := Except.map_eq_ok_iff.mp started
  obtain ⟨composed, count, rfl⟩ := Blueprint.exists_eq_of_addClusters filled
  obtain ⟨clusters, -, rfl⟩ := Blueprint.finished_of_assemble assembled
  exact ⟨rfl, allocated⟩

theorem machinePlatform_of_no_regions (standard : configuration.regions = none) :
    configuration.machinePlatform.regions = (Platform.preset configuration.platform).regions := by
  rw [machinePlatform, standard]
  rfl

/-- The ranges of a machine cover as many addresses as there are bytes of memory if and only if
they are distinct.  They are if the regions of the platform are, and so without configured regions.
A machine that uses its regions up has distinct ranges only if the regions are. -/
theorem covers_requested_iff_isDistinct (accepted : configuration.topology = .ok topology) :
    (Memory.covered topology.memoryRanges).card ≤ topology.requestedMemory.bytes.toNat ∧
    ((Memory.covered topology.memoryRanges).card = topology.requestedMemory.bytes.toNat ↔
      Memory.IsDistinct topology.memoryRanges) ∧
    (Memory.IsDistinct configuration.machinePlatform.regions →
      Memory.IsDistinct topology.memoryRanges) ∧
    (configuration.regions = none → Memory.IsDistinct topology.memoryRanges) ∧
    (configuration.memorySize.bytes.toNat =
        Memory.supply configuration.machinePlatform.regions →
      (Memory.IsDistinct topology.memoryRanges ↔
        Memory.IsDistinct configuration.machinePlatform.regions)) := by
  obtain ⟨requestedEq, allocated⟩ := allocate_of_topology accepted
  obtain ⟨kept, whole⟩ := Memory.isDistinct_of_allocate allocated
  have held := Memory.supply_of_allocate allocated
  rw [requestedEq, ← held]
  refine ⟨Memory.card_covered_le _, Memory.card_covered_eq_iff _, kept, ?_, held ▸ whole⟩
  intro standard
  apply kept
  rw [machinePlatform_of_no_regions standard]
  exact Memory.isDistinct_preset configuration.platform

/-- A machine of two kibibytes, with a region of one at zero and another further up. -/
def twoRegions (start : UInt64) : Configuration where
  regions := some [⟨0, 1024⟩, ⟨start, 1024⟩]
  memorySize := ⟨2048⟩

theorem covers_requested_iff_isDistinct_twoRegions :
    ∃ topology, (twoRegions 4096).topology = .ok topology ∧
      (Memory.covered topology.memoryRanges).card = 2048 := by
  have composed : ∃ topology, (twoRegions 4096).topology = .ok topology ∧
      topology.requestedMemory = ⟨2048⟩ := ⟨_, rfl, rfl⟩
  obtain ⟨topology, accepted, requested⟩ := composed
  obtain ⟨-, covers, kept, -⟩ := covers_requested_iff_isDistinct accepted
  rw [requested] at covers
  refine ⟨topology, accepted, covers.mpr (kept ?_)⟩
  exact Memory.isDistinct_of_ordered (by decide) (by decide)

/-- Two regions at one place are accepted as two kibibytes of memory, and cover one. -/
theorem not_isDistinct_twoRegions :
    ∃ topology, (twoRegions 0).topology = .ok topology ∧
      topology.memoryRanges = [⟨0, 1024⟩, ⟨0, 1024⟩] ∧
      topology.requestedMemory.bytes = 2048 ∧
      (Memory.covered topology.memoryRanges).card = 1024 ∧
      ¬ Memory.IsDistinct topology.memoryRanges := by
  have composed : ∃ topology, (twoRegions 0).topology = .ok topology ∧
      topology.memoryRanges = [⟨0, 1024⟩, ⟨0, 1024⟩] ∧
      topology.requestedMemory.bytes = 2048 := ⟨_, rfl, rfl, rfl⟩
  obtain ⟨topology, accepted, ranges, requested⟩ := composed
  have half : (Memory.covered topology.memoryRanges).card = 1024 := by
    rw [ranges, Memory.covered, Memory.covered, Memory.covered, Finset.union_empty,
      Finset.union_self, AddressRange.card_addresses_eq_iff.mpr (by decide)]
    rfl
  refine ⟨topology, accepted, ranges, requested, half, fun distinct => ?_⟩
  rw [← Memory.card_covered_eq_iff, half, ranges] at distinct
  exact absurd distinct (by decide)

end Configuration

end Mainboard
