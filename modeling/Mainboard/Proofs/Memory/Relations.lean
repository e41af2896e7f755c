import Mainboard.Proofs.Memory.Addresses

/-!
# Relations of ranges

The relations of ranges compare their ends, and an end stops at the last
address.  So what they say of the last address is not what the intervals say:
no range contains it, no two ranges overlap in it alone, and a range that ends
just before it is taken to contain what reaches it.  Of all other addresses they
say what the intervals do, and so everything between ranges that end below the
top of the address space.
-/

namespace Mainboard.AddressRange

/-- The last address of the address space. -/
def lastAddress : UInt64 := 0xffffffffffffffff

@[simp]
theorem toNat_lastAddress : lastAddress.toNat = UInt64.size - 1 := rfl

/-- An address belongs to a range. -/
def Covers (range : AddressRange) (address : UInt64) : Prop := address.toNat ∈ range.addresses

variable {left right range other : AddressRange} {address : UInt64}

theorem covers_iff :
    range.Covers address ↔ range.start.toNat ≤ address.toNat ∧ address.toNat < range.bound := by
  have inSpace : address.toNat < UInt64.size := address.toNat_lt
  rw [Covers, mem_addresses_iff]
  simp [inSpace]

instance : Decidable (range.Covers address) := decidable_of_iff _ covers_iff.symm

/-- Addresses are those numbers that are below the top. -/
theorem exists_address {number : Nat} (inSpace : number < UInt64.size) :
    ∃ address : UInt64, address.toNat = number :=
  ⟨UInt64.ofNat number, UInt64.toNat_ofNat_of_lt' inSpace⟩

theorem ne_lastAddress_iff : address ≠ lastAddress ↔ address.toNat < UInt64.size - 1 := by
  have inSpace : address.toNat < UInt64.size := address.toNat_lt
  rw [Ne, ← UInt64.toNat_inj, toNat_lastAddress]
  omega

theorem containsAddress_iff : range.containsAddress address ↔
    range.start.toNat ≤ address.toNat ∧ address.toNat < range.stop.toNat := by
  rw [containsAddress, Bool.and_eq_true, decide_eq_true_iff, decide_eq_true_iff,
    UInt64.le_iff_toNat_le, UInt64.lt_iff_toNat_lt]

theorem contains_iff : range.contains other ↔
    range.start.toNat ≤ other.start.toNat ∧ other.stop.toNat ≤ range.stop.toNat := by
  rw [contains, Bool.and_eq_true, decide_eq_true_iff, decide_eq_true_iff,
    UInt64.le_iff_toNat_le, UInt64.le_iff_toNat_le]

theorem overlaps_iff : left.overlaps right ↔
    0 < left.size.toNat ∧ 0 < right.size.toNat ∧
      left.start.toNat < right.stop.toNat ∧ right.start.toNat < left.stop.toNat := by
  have filled : ∀ range : AddressRange, (!range.isEmpty) = true ↔ 0 < range.size.toNat := by
    intro range
    rw [isEmpty, Bool.not_eq_true', beq_eq_false_iff_ne, Ne, ← UInt64.toNat_inj,
      UInt64.toNat_zero, Nat.pos_iff_ne_zero]
  rw [overlaps, Bool.and_eq_true, Bool.and_eq_true, Bool.and_eq_true, filled, filled,
    decide_eq_true_iff, decide_eq_true_iff, UInt64.lt_iff_toNat_lt, UInt64.lt_iff_toNat_lt,
    and_assoc, and_assoc]

/-- A range contains its addresses, apart from the last of all. -/
theorem containsAddress_iff_covers :
    range.containsAddress address ↔ range.Covers address ∧ address ≠ lastAddress := by
  rw [containsAddress_iff, covers_iff, ne_lastAddress_iff, toNat_stop, bound]
  omega

/-- Ranges overlap if they have an address in common, apart from the last of all. -/
theorem overlaps_iff_covers : left.overlaps right ↔
    ∃ address, left.Covers address ∧ right.Covers address ∧ address ≠ lastAddress := by
  simp only [overlaps_iff, toNat_stop, covers_iff, ne_lastAddress_iff, bound]
  constructor
  · -- The later of the two starts is an address that both have.
    rintro ⟨inLeft, inRight, before, after⟩
    obtain ⟨address, later⟩ := @exists_address (max left.start.toNat right.start.toNat) (by omega)
    exact ⟨address, by omega, by omega, by omega⟩
  · rintro ⟨address, inLeft, inRight, notLast⟩
    omega

/-- A range contains another if it has its addresses.  The last of all counts as an address of a
range that ends just before it. -/
theorem contains_iff_covers (inhabited : 0 < other.size) : range.contains other ↔
    ∀ address, other.Covers address →
      range.Covers address ∨ address = lastAddress ∧ range.bound = lastAddress.toNat := by
  have filled := UInt64.lt_iff_toNat_lt.mp inhabited
  have startInSpace : other.start.toNat < UInt64.size := other.start.toNat_lt
  rw [UInt64.toNat_zero] at filled
  simp only [contains_iff, toNat_stop, covers_iff, ← UInt64.toNat_inj, toNat_lastAddress, bound]
  constructor
  · rintro ⟨starts, ends⟩ address within
    have inSpace : address.toNat < UInt64.size := address.toNat_lt
    omega
  · -- Of the addresses of the other range, its first and its last decide.
    intro all
    obtain ⟨final, isFinal⟩ := @exists_address
      (min (other.start.toNat + other.size.toNat) UInt64.size - 1) (by omega)
    have first := all other.start (by omega)
    have last := all final (by omega)
    omega

/-- The relations of a range with another are those of the intervals of their addresses. -/
structure IsExact (left right : AddressRange) : Prop where
  containsAddress : ∀ address : UInt64, left.containsAddress address ↔
    left.start.toNat ≤ address.toNat ∧ address.toNat < left.start.toNat + left.size.toNat
  overlaps : left.overlaps right ↔ ∃ address, left.Covers address ∧ right.Covers address
  contains : 0 < right.size →
    (left.contains right ↔ ∀ address, right.Covers address → left.Covers address)

/-- A range that ends at the top, or would end beyond it, has the last address and does not
contain it. -/
theorem IsExact.bound_lt (exact : left.IsExact right) : left.bound < UInt64.size := by
  have startInSpace : left.start.toNat < UInt64.size := left.start.toNat_lt
  by_contra reaches
  have atLast := exact.containsAddress lastAddress
  rw [containsAddress_iff_covers, toNat_lastAddress] at atLast
  rw [bound] at reaches
  exact (atLast.mpr (by omega)).2 rfl

theorem isExact_of_bound_lt (leftBelow : left.bound < UInt64.size)
    (rightBelow : right.bound < UInt64.size) : left.IsExact right := by
  have below : ∀ {range : AddressRange}, range.bound < UInt64.size →
      ∀ {address}, range.Covers address → address ≠ lastAddress := by
    intro range ends address within
    rw [ne_lastAddress_iff]
    have inside := (covers_iff.mp within).2
    omega
  refine ⟨fun address => ?_, ?_, fun inhabited => ?_⟩
  · rw [containsAddress_iff_covers, and_iff_left_of_imp (below leftBelow), covers_iff, bound]
  · rw [overlaps_iff_covers]
    exact exists_congr fun address => and_congr_right fun within =>
      and_iff_left (below leftBelow within)
  · rw [contains_iff_covers inhabited]
    refine forall_congr' fun address => imp_congr_right fun within => ?_
    exact or_iff_left fun isLast => below rightBelow within isLast.1

/-- What the relations of ranges say of their addresses: of all but the last of the address space
what the intervals say.  Two ranges have exact relations, both ways, if and only if both end below
the top of the address space. -/
theorem relations_except_last (left right : AddressRange) :
    (∀ address, left.containsAddress address ↔
      left.Covers address ∧ address ≠ lastAddress) ∧
    (left.overlaps right ↔
      ∃ address, left.Covers address ∧ right.Covers address ∧ address ≠ lastAddress) ∧
    (0 < right.size → (left.contains right ↔
      ∀ address, right.Covers address →
        left.Covers address ∨ address = lastAddress ∧ left.bound = lastAddress.toNat)) ∧
    (left.IsExact right ∧ right.IsExact left ↔
      left.bound < UInt64.size ∧ right.bound < UInt64.size) := by
  refine ⟨fun _ => containsAddress_iff_covers, overlaps_iff_covers, contains_iff_covers, ?_⟩
  constructor
  · rintro ⟨forth, back⟩
    exact ⟨forth.bound_lt, back.bound_lt⟩
  · rintro ⟨leftBelow, rightBelow⟩
    exact ⟨isExact_of_bound_lt leftBelow rightBelow, isExact_of_bound_lt rightBelow leftBelow⟩

/-- The last sixteen addresses. -/
def lastSixteen : AddressRange := ⟨0xfffffffffffffff0, 16⟩

/-- The last address alone. -/
def lastOne : AddressRange := ⟨0xffffffffffffffff, 1⟩

/-- The fifteen addresses before the last. -/
def beforeLast : AddressRange := ⟨0xfffffffffffffff0, 15⟩

theorem relations_except_last_beforeLast : 0 < lastOne.size ∧
    (beforeLast.contains lastOne ↔ ∀ address, lastOne.Covers address →
      beforeLast.Covers address ∨
        address = lastAddress ∧ beforeLast.bound = lastAddress.toNat) :=
  ⟨by decide, (relations_except_last beforeLast lastOne).2.2.1 (by decide)⟩

/-- Ranges that end at the top have the last address in common, and neither contain it nor overlap.
The range that ends before it contains it. -/
theorem not_isExact_lastOne :
    (lastSixteen.bound = UInt64.size ∧ lastOne.bound = UInt64.size ∧
      lastSixteen.Covers lastAddress ∧ lastOne.Covers lastAddress ∧
      lastOne.containsAddress lastAddress = false ∧
      lastSixteen.overlaps lastOne = false ∧ ¬ lastOne.IsExact lastSixteen) ∧
    (beforeLast.bound < UInt64.size ∧ ¬ beforeLast.Covers lastAddress ∧
      beforeLast.contains lastOne = true ∧ ¬ beforeLast.IsExact lastOne) := by
  refine ⟨⟨rfl, rfl, by decide, by decide, rfl, rfl, ?_⟩, by decide, by decide, rfl, ?_⟩
  · intro exact
    exact absurd exact.bound_lt (by decide)
  · intro exact
    have all := (exact.contains (by decide)).mp rfl lastAddress (by decide)
    exact absurd all (by decide)

end Mainboard.AddressRange
