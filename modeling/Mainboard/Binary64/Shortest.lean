import Mainboard.Binary64.Nearest

/-!
# Shortest decimal text

The decimal text of a 53-bit value that is at least one: the fewest digits
that read back as the same value, the nearer of two such texts, written out
positionally.  A text reads back when it lies between the midpoints to the two
neighbouring values; the midpoints themselves belong to an even mantissa.
-/

namespace Mainboard.Binary64

/-- What reads back as one value: the ends of an interval over a common
denominator, with the value itself between them. -/
structure Neighbourhood where
  low : Nat
  value : Nat
  high : Nat
  denominator : Nat
  closed : Bool

/-- The interval of numbers nearer to a value than to its neighbours.  Below a
power of two the spacing halves. -/
def neighbourhood (value : Binary64) : Neighbourhood :=
  let scale := (Binary64.mk 1 (value.exponent - 2)).toFraction
  let below := if value.mantissa = leastMantissa then 1 else 2
  { low := (4 * value.mantissa - below) * scale.1
    value := 4 * value.mantissa * scale.1
    high := (4 * value.mantissa + 2) * scale.1
    denominator := scale.2
    closed := value.mantissa % 2 == 0 }

/-- Whether `numerator / denominator` reads back as the value. -/
def Neighbourhood.holds (around : Neighbourhood) (numerator denominator : Nat) : Bool :=
  let left := numerator * around.denominator
  let low := around.low * denominator
  let high := around.high * denominator
  if around.closed then low ≤ left && left ≤ high else low < left && left < high

/-- A decimal number: `digits / 10 ^ places` when places are kept, and
`digits * 10 ^ zeros` when the last digits before the point are zeros. -/
structure Decimal where
  digits : Nat
  zeros : Nat
  places : Nat
  deriving DecidableEq

/-- The two neighbours of the value on one decimal grid: the nearer that reads
back, the upper one of two that are equally near. -/
def Neighbourhood.onGrid? (around : Neighbourhood) (zeros places : Nat) : Option Decimal :=
  let unit := around.denominator * Nat.pow 10 zeros
  let scaled := around.value * Nat.pow 10 places
  let lower := scaled / unit
  let reads (digits : Nat) := around.holds (digits * Nat.pow 10 zeros) (Nat.pow 10 places)
  match reads lower, reads (lower + 1) with
  | true, false => some ⟨lower, zeros, places⟩
  | false, true => some ⟨lower + 1, zeros, places⟩
  | true, true =>
      some ⟨if 2 * (scaled % unit) < unit then lower else lower + 1, zeros, places⟩
  | false, false => none

def shortest (value : Binary64) : Decimal :=
  let around := value.neighbourhood
  let whole := (Nat.toDigits 10 (around.value / around.denominator)).length
  let grids := (List.range 17).map fun extra => (whole - (extra + 1), extra + 1 - whole)
  (grids.findSome? fun grid => around.onGrid? grid.1 grid.2).getD
    ⟨around.value / around.denominator, 0, 0⟩

/-- Positional text, with a point only before kept places. -/
def Decimal.toText (decimal : Decimal) : String :=
  let digits := Nat.toDigits 10 decimal.digits ++ List.replicate decimal.zeros '0'
  if decimal.places = 0 then String.ofList digits
  else
    let padded := List.replicate (decimal.places + 1 - digits.length) '0' ++ digits
    let split := padded.length - decimal.places
    String.ofList (padded.take split ++ '.' :: padded.drop split)

end Mainboard.Binary64
