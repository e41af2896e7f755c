/-!
# Nearest 53-bit values

A value with 53 significant bits, kept as a mantissa and a power of two, and
the one nearest to an exact quotient.  Exponents are unbounded, so nothing
overflows or loses bits at the bottom; a half goes to the even mantissa.
-/

namespace Mainboard

/-- The value `mantissa * 2 ^ exponent`. -/
structure Binary64 where
  mantissa : Nat
  exponent : Int
  deriving DecidableEq

namespace Binary64

/-- The quotient `numerator / denominator` rounded to a whole number, halves to even. -/
def roundHalfEven (numerator denominator : Nat) : Nat :=
  let quotient := numerator / denominator
  let twice := 2 * (numerator % denominator)
  if twice < denominator then quotient
  else if denominator < twice then quotient + 1
  else quotient + quotient % 2

theorem roundHalfEven_mul (whole : Nat) {denominator : Nat} (positive : 0 < denominator) :
    roundHalfEven (whole * denominator) denominator = whole := by
  simp [roundHalfEven, positive]

/-- The quotient of two numbers after the first is divided by `2 ^ exponent`, as a fraction. -/
def shifted (numerator denominator : Nat) (exponent : Int) : Nat × Nat :=
  if 0 ≤ exponent then (numerator, denominator <<< exponent.toNat)
  else (numerator <<< (-exponent).toNat, denominator)

/-- The least mantissa of 53 bits, `2 ^ 52`. -/
def leastMantissa : Nat := 4503599627370496

/-- A mantissa that rounding has carried to 54 bits, brought back to 53. -/
def normalized (mantissa : Nat) (exponent : Int) : Binary64 :=
  if mantissa = 2 * leastMantissa then ⟨leastMantissa, exponent + 1⟩ else ⟨mantissa, exponent⟩

/-- The 53-bit value nearest to `numerator / denominator`. -/
def nearest (numerator denominator : Nat) : Binary64 :=
  if numerator = 0 then ⟨0, 0⟩
  else
    let guess : Int := (numerator.log2 : Int) - denominator.log2 - 52
    let (above, below) := shifted numerator denominator guess
    let exponent := if above / below < leastMantissa then guess - 1 else guess
    let (above, below) := shifted numerator denominator exponent
    normalized (roundHalfEven above below) exponent

/-- The product with a whole number, rounded to 53 bits. -/
def times (value : Binary64) (factor : Nat) : Binary64 :=
  let product := nearest (value.mantissa * factor) 1
  ⟨product.mantissa, product.exponent + value.exponent⟩

/-- The quotient by a whole number, rounded to 53 bits. -/
def dividedBy (value : Binary64) (divisor : Nat) : Binary64 :=
  let quotient := nearest value.mantissa divisor
  ⟨quotient.mantissa, quotient.exponent + value.exponent⟩

def toFraction (value : Binary64) : Nat × Nat :=
  if 0 ≤ value.exponent then (value.mantissa <<< value.exponent.toNat, 1)
  else (value.mantissa, 1 <<< (-value.exponent).toNat)

/-- The nearest whole number, halves away from zero. -/
def round (value : Binary64) : Nat :=
  let (above, below) := value.toFraction
  (2 * above + below) / (2 * below)

def exceeds (value : Binary64) (limit : Nat) : Bool :=
  let (above, below) := value.toFraction
  limit * below < above

end Binary64

end Mainboard
