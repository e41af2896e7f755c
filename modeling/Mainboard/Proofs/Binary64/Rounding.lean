import Mainboard.Binary64.Nearest
import Mathlib.Data.UInt

/-!
# Rounding large whole numbers

A whole number of more than 53 bits loses the last of them.  Rounding never
takes it below a power of two that it has reached, and takes it down to that
power only from within half the distance between two values there.  A product
with a whole number is rounded once more.
-/

namespace Mainboard.Binary64

section Halves

variable {numerator denominator : Nat}

/-- Rounding down is from a half at most, and rounding up from a half at least; a half goes to the
even number. -/
theorem roundHalfEven_cases (numerator denominator : Nat) :
    roundHalfEven numerator denominator = numerator / denominator ∧
        2 * (numerator % denominator) ≤ denominator ∨
      roundHalfEven numerator denominator = numerator / denominator + 1 ∧
        denominator ≤ 2 * (numerator % denominator) ∧
        (2 * (numerator % denominator) = denominator → numerator / denominator % 2 = 1) := by
  dsimp only [roundHalfEven]
  split
  · exact .inl ⟨rfl, by omega⟩
  · split
    · exact .inr ⟨rfl, by omega, by omega⟩
    · rcases Nat.mod_two_eq_zero_or_one (numerator / denominator) with even | odd
      · exact .inl ⟨by rw [even, Nat.add_zero], by omega⟩
      · exact .inr ⟨by rw [odd], by omega, fun _ => odd⟩

/-- A quotient between two whole numbers is rounded to a number between them. -/
theorem roundHalfEven_mem {low high : Nat} (positive : 0 < denominator)
    (above : low * denominator ≤ numerator) (below : numerator ≤ high * denominator) :
    low ≤ roundHalfEven numerator denominator ∧ roundHalfEven numerator denominator ≤ high := by
  have lower : low ≤ numerator / denominator := (Nat.le_div_iff_mul_le positive).mpr above
  have upper : numerator / denominator ≤ high := Nat.div_le_of_le_mul (by rwa [Nat.mul_comm])
  rcases upper.lt_or_eq with inside | exact
  · rcases roundHalfEven_cases numerator denominator with ⟨down, -⟩ | ⟨up, -⟩ <;> omega
  · -- Nothing is left to round at the upper end.
    have whole : numerator = high * denominator := by
      have split := Nat.div_add_mod numerator denominator
      rw [exact, Nat.mul_comm] at split
      omega
    rw [whole, roundHalfEven_mul high positive]
    omega

/-- Down to an even number is rounded whatever is at most a half above it. -/
theorem roundHalfEven_le_iff {low half : Nat} (even : low % 2 = 0) (positive : 0 < half) :
    roundHalfEven numerator (2 * half) ≤ low ↔ numerator ≤ low * (2 * half) + half := by
  have split := Nat.div_add_mod numerator (2 * half)
  have short := Nat.mod_lt numerator (show 0 < 2 * half by omega)
  have cases := roundHalfEven_cases numerator (2 * half)
  rw [Nat.mul_comm] at split
  rcases Nat.lt_trichotomy (numerator / (2 * half)) low with below | same | above
  · have room := Nat.mul_le_mul_right (2 * half) below
    rw [Nat.succ_mul] at room
    omega
  · rw [same] at split cases
    omega
  · have room := Nat.mul_le_mul_right (2 * half) above
    rw [Nat.succ_mul] at room
    omega

end Halves

/-- The number that a value stands for if none of its bits are below the point. -/
def whole (value : Binary64) : Nat := value.mantissa * 2 ^ value.exponent.toNat

/-- A value has all of its 53 bits, and none of them below the point. -/
structure IsLarge (value : Binary64) : Prop where
  nonneg : 0 ≤ value.exponent
  le_mantissa : 2 ^ 52 ≤ value.mantissa
  mantissa_lt : value.mantissa < 2 ^ 53

section Whole

variable {value : Binary64}

theorem toFraction_of_nonneg (nonneg : 0 ≤ value.exponent) :
    value.toFraction = (value.whole, 1) := by
  rw [toFraction, if_pos nonneg, Nat.shiftLeft_eq, whole]

theorem round_of_nonneg (nonneg : 0 ≤ value.exponent) : value.round = value.whole := by
  simp only [round, toFraction_of_nonneg nonneg]
  omega

theorem exceeds_of_nonneg (nonneg : 0 ≤ value.exponent) (limit : Nat) :
    value.exceeds limit = decide (limit < value.whole) := by
  simp only [exceeds, toFraction_of_nonneg nonneg, Nat.mul_one]

/-- A mantissa that rounding has carried loses no bit when it is brought back. -/
theorem normalized_spec {mantissa exponent : Nat} (least : 2 ^ 52 ≤ mantissa)
    (most : mantissa ≤ 2 ^ 53) :
    (normalized mantissa exponent).IsLarge ∧
      (normalized mantissa exponent).whole = mantissa * 2 ^ exponent ∧
      exponent ≤ (normalized mantissa exponent).exponent.toNat := by
  have carry : 2 * leastMantissa = 2 ^ 53 := rfl
  rw [normalized]
  split
  next carried =>
    have raised : ((exponent : Int) + 1).toNat = exponent + 1 := by omega
    have least_lt : leastMantissa < 2 ^ 53 := by decide
    refine ⟨⟨Int.natCast_nonneg (exponent + 1), le_rfl, least_lt⟩, ?_, ?_⟩
    · rw [carried, whole, raised, Nat.pow_succ', ← Nat.mul_assoc, Nat.mul_comm leastMantissa 2]
    · exact raised ▸ Nat.le_succ exponent
  next fits =>
    have below : mantissa < 2 ^ 53 := most.lt_of_ne fun full => fits (full.trans carry.symm)
    exact ⟨⟨Int.natCast_nonneg exponent, least, below⟩, rfl, le_rfl⟩

end Whole

section Nearest

variable {number : Nat}

/-- The distance of neighbouring values about a number of 53 bits or more. -/
def spacing (number : Nat) : Nat := 2 ^ (number.log2 - 52)

theorem le_log2 (large : 2 ^ 52 ≤ number) : 52 ≤ number.log2 :=
  (Nat.le_log2 (by rintro rfl; cases large)).mpr large

/-- A number of 53 bits or more in multiples of its spacing. -/
theorem mul_spacing_le (large : 2 ^ 52 ≤ number) :
    2 ^ 52 * spacing number = 2 ^ number.log2 ∧ 2 ^ 52 * spacing number ≤ number ∧
      number < 2 ^ 53 * spacing number := by
  have bits := le_log2 large
  have least : 2 ^ 52 * spacing number = 2 ^ number.log2 := by
    rw [spacing, ← Nat.pow_add, Nat.add_sub_cancel' bits]
  have least' : 2 ^ 53 * spacing number = 2 ^ (number.log2 + 1) := by
    rw [Nat.pow_succ', Nat.mul_assoc, least, Nat.pow_succ']
  refine ⟨least, ?_, ?_⟩
  · rw [least]
    exact Nat.log2_self_le (by rintro rfl; cases large)
  · rw [least']
    exact Nat.lt_log2_self

theorem nearest_eq (large : 2 ^ 52 ≤ number) :
    nearest number 1 =
      normalized (roundHalfEven number (spacing number)) (number.log2 - 52 : Nat) := by
  have bits := le_log2 large
  obtain ⟨-, reaches, -⟩ := mul_spacing_le large
  have positive : 0 < spacing number := Nat.two_pow_pos _
  have guess : (number.log2 : Int) - Nat.log2 1 - 52 = (number.log2 - 52 : Nat) := by
    have none : Nat.log2 1 = 0 := by decide
    omega
  have shift : shifted number 1 ((number.log2 - 52 : Nat) : Int) = (number, spacing number) := by
    rw [shifted, if_pos (Int.natCast_nonneg _), Int.toNat_natCast, Nat.shiftLeft_eq, Nat.one_mul,
      spacing]
  have full : ¬ number / spacing number < leastMantissa := by
    rw [Nat.not_lt]
    exact (Nat.le_div_iff_mul_le positive).mpr reaches
  rw [nearest, if_neg (by rintro rfl; cases large), guess]
  simp only [shift, if_neg full]

/-- Rounding takes a number of 53 bits or more to a multiple of its spacing. -/
theorem nearest_spec (large : 2 ^ 52 ≤ number) :
    (nearest number 1).IsLarge ∧
      (nearest number 1).whole = roundHalfEven number (spacing number) * spacing number ∧
      number.log2 - 52 ≤ (nearest number 1).exponent.toNat := by
  obtain ⟨-, reaches, below⟩ := mul_spacing_le large
  obtain ⟨least, most⟩ := roundHalfEven_mem (Nat.two_pow_pos _) reaches below.le
  rw [nearest_eq large]
  exact normalized_spec least most

/-- Rounding does not cross a power of two. -/
theorem le_whole_nearest {bits : Nat} (long : 52 ≤ bits) (reaches : 2 ^ bits ≤ number) :
    2 ^ bits ≤ (nearest number 1).whole := by
  have large : 2 ^ 52 ≤ number := (Nat.pow_le_pow_right (by decide) long).trans reaches
  have bits_le : bits ≤ number.log2 :=
    (Nat.le_log2 (by rintro rfl; cases large)).mpr reaches
  obtain ⟨least, multiple, below⟩ := mul_spacing_le large
  calc
    2 ^ bits ≤ 2 ^ number.log2 := Nat.pow_le_pow_right (by decide) bits_le
    _ = 2 ^ 52 * spacing number := least.symm
    _ ≤ roundHalfEven number (spacing number) * spacing number :=
      Nat.mul_le_mul_right _ (roundHalfEven_mem (Nat.two_pow_pos _) multiple below.le).1
    _ = (nearest number 1).whole := (nearest_spec large).2.1.symm

/-- A number is rounded down to a power of two from half a spacing above it at most. -/
theorem whole_nearest_le_iff {bits : Nat} (long : 53 ≤ bits) (reaches : 2 ^ bits ≤ number) :
    (nearest number 1).whole ≤ 2 ^ bits ↔ number ≤ 2 ^ bits + 2 ^ (bits - 53) := by
  have large : 2 ^ 52 ≤ number := (Nat.pow_le_pow_right (by decide) (by omega)).trans reaches
  have bits_le : bits ≤ number.log2 :=
    (Nat.le_log2 (by rintro rfl; cases large)).mpr reaches
  rcases bits_le.eq_or_lt with same | above
  · have half : spacing number = 2 * 2 ^ (bits - 53) := by
      rw [spacing, ← same, ← Nat.pow_succ']
      congr 1
      omega
    have least := (mul_spacing_le large).1
    rw [← same] at least
    have positive : 0 < spacing number := Nat.two_pow_pos _
    rw [(nearest_spec large).2.1, ← least, Nat.mul_le_mul_right_iff positive, half]
    exact roundHalfEven_le_iff (by decide) (Nat.two_pow_pos _)
  · have double : 2 ^ (bits + 1) = 2 ^ bits + 2 ^ bits := by
      rw [Nat.pow_succ]
      omega
    have short : 2 ^ (bits - 53) < 2 ^ bits := Nat.pow_lt_pow_right (by decide) (by omega)
    have number_ge : 2 ^ (bits + 1) ≤ number :=
      (Nat.le_log2 (by rintro rfl; cases large)).mp above
    have whole_ge := le_whole_nearest (by omega) number_ge
    have positive := Nat.two_pow_pos bits
    omega

theorem nearest_of_lt (large : 2 ^ 52 ≤ number) (short : number < 2 ^ 53) :
    nearest number 1 = ⟨number, 0⟩ := by
  have last : number.log2 = 52 := by
    have upper := (Nat.log2_lt (by rintro rfl; cases large)).mpr short
    have lower := le_log2 large
    omega
  have unit : spacing number = 1 := by simp [spacing, last]
  have same := roundHalfEven_mul number (show 0 < 1 by decide)
  rw [Nat.mul_one] at same
  rw [nearest_eq large, unit, same, last, normalized, if_neg]
  · rfl
  · have carry : 2 * leastMantissa = 2 ^ 53 := rfl
    omega

end Nearest

section Products

variable {value : Binary64} {factor : Nat}

theorem times_one (isLarge : value.IsLarge) : value.times 1 = value := by
  rw [times, Nat.mul_one, nearest_of_lt isLarge.le_mantissa isLarge.mantissa_lt]
  simp

/-- A product is the rounded product of the mantissa. -/
theorem whole_times (isLarge : value.IsLarge) (positive : 0 < factor) :
    0 ≤ (value.times factor).exponent ∧
      (value.times factor).whole =
        (nearest (value.mantissa * factor) 1).whole * 2 ^ value.exponent.toNat := by
  have large : 2 ^ 52 ≤ value.mantissa * factor :=
    isLarge.le_mantissa.trans (Nat.le_mul_of_pos_right _ positive)
  obtain ⟨⟨nonneg, -, -⟩, -⟩ := nearest_spec large
  refine ⟨Int.add_nonneg nonneg isLarge.nonneg, ?_⟩
  have sum := Int.toNat_add nonneg isLarge.nonneg
  rw [whole, times, sum, Nat.pow_add, ← Nat.mul_assoc, whole]

/-- A number above a power of two, rounded and multiplied with a whole number, stays above it, and
comes out at the power itself only by the factor one and from half a spacing above it at most. -/
theorem whole_times_nearest {number bits : Nat} (long : 53 ≤ bits) (reaches : 2 ^ bits ≤ number)
    (positive : 0 < factor) :
    0 ≤ ((nearest number 1).times factor).exponent ∧
      2 ^ bits ≤ ((nearest number 1).times factor).whole ∧
      (((nearest number 1).times factor).whole ≤ 2 ^ bits ↔
        factor = 1 ∧ number ≤ 2 ^ bits + 2 ^ (bits - 53)) := by
  have large : 2 ^ 52 ≤ number := (Nat.pow_le_pow_right (by decide) (by omega)).trans reaches
  have isLarge := (nearest_spec large).1
  rcases (show 1 ≤ factor from positive).eq_or_lt with rfl | more
  · rw [times_one isLarge]
    exact ⟨isLarge.nonneg, le_whole_nearest (by omega) reaches,
      by simpa using whole_nearest_le_iff long reaches⟩
  · obtain ⟨nonneg, product⟩ := whole_times isLarge positive
    have doubled : 2 ^ 53 ≤ (nearest number 1).mantissa * factor := by
      have twice := Nat.mul_le_mul isLarge.le_mantissa more
      omega
    have bits_le : bits ≤ number.log2 :=
      (Nat.le_log2 (by rintro rfl; cases large)).mpr reaches
    have above : 2 ^ (bits + 1) ≤ ((nearest number 1).times factor).whole := by
      rw [product]
      calc
        2 ^ (bits + 1) ≤ 2 ^ (53 + (nearest number 1).exponent.toNat) :=
          Nat.pow_le_pow_right (by decide) (by have := (nearest_spec large).2.2; omega)
        _ = 2 ^ 53 * 2 ^ (nearest number 1).exponent.toNat := Nat.pow_add ..
        _ ≤ _ := Nat.mul_le_mul_right _ (le_whole_nearest (by decide) doubled)
    have strict : 2 ^ bits < 2 ^ (bits + 1) := Nat.pow_lt_pow_right (by decide) (by omega)
    refine ⟨nonneg, by omega, ?_⟩
    constructor
    · intro low
      omega
    · rintro ⟨rfl, -⟩
      omega

end Products

end Mainboard.Binary64
