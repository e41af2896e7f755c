import Mainboard.Text.Blank
import Mainboard.Binary64.Nearest

/-!
# Numbers with a unit

A measure is a noun and the suffixes that may follow a number of it, each with
the whole number it multiplies by.  Whole numbers that fit a word are scaled
exactly; a number with a point, or one beyond a word, is taken to 53 bits,
scaled, and rounded to the nearest whole number.
-/

namespace Mainboard

/-- What a number with a unit measures, and the units it may be written in. -/
structure Measure where
  noun : String
  suffixes : List (String × Nat)

namespace Measure

/-- The largest amount, that of a 64-bit word. -/
def largest : Nat := UInt64.size - 1

def isNumeric (character : Char) : Bool := character.isDigit || character == '.'

def split (characters : List Char) : List Char × List Char :=
  let written := Text.trim characters
  (written.takeWhile isNumeric, Text.trim (written.dropWhile isNumeric))

def digits? (number : List Char) : Option (List Char × List Char) :=
  let whole := number.takeWhile Char.isDigit
  let fraction := (number.dropWhile Char.isDigit).drop 1
  if fraction.all Char.isDigit && !(whole.isEmpty && fraction.isEmpty) then
    some (whole, fraction)
  else none

/-- Scales through 53-bit arithmetic.  A product above `2 ^ 64` is refused and
one that rounds to it is held at the largest word. -/
def scaleRounded (number : List Char) (multiplier : Nat) : Option UInt64 := do
  let (whole, fraction) ← digits? number
  let numerator := Nat.ofDigitChars 10 (whole ++ fraction) 0
  let product := (Binary64.nearest numerator (Nat.pow 10 fraction.length)).times multiplier
  if product.exceeds UInt64.size then none
  else some (UInt64.ofNat (min product.round largest))

def scale (number : List Char) (multiplier : Nat) : Option UInt64 :=
  let value := Nat.ofDigitChars 10 number 0
  if number.isEmpty then none
  else if number.all Char.isDigit && value ≤ largest then
    if value * multiplier ≤ largest then some (UInt64.ofNat (value * multiplier)) else none
  else scaleRounded number multiplier

def read? (measure : Measure) (text : String) : Option UInt64 := do
  let (number, unit) := split text.toList
  let multiplier ← measure.suffixes.lookup (String.ofList unit)
  scale number multiplier

end Measure

end Mainboard
