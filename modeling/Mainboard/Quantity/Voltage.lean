import Mainboard.Quantity.Measure

/-!
# Supply voltages

Voltages are kept in whole millivolts, so that they compare exactly, and are
printed in volts with three decimals.
-/

namespace Mainboard

/-- A supply voltage in millivolts. -/
structure Voltage where
  millivolts : UInt32
  deriving DecidableEq

namespace Voltage

def measure : Measure where
  noun := "voltage"
  suffixes := [("", 1000), ("V", 1000), ("mV", 1)]

/-- The voltage of a cluster whose voltage is not given. -/
def standard : Voltage := ⟨1000⟩

def ofMillivolts? (count : UInt64) : Option Voltage :=
  if count.toNat < UInt32.size then some ⟨count.toUInt32⟩ else none

/-- Reads a voltage such as `1.0V`. -/
def read? (text : String) : Option Voltage := do
  ofMillivolts? (← measure.read? text)

def toText (voltage : Voltage) : String :=
  let count := voltage.millivolts.toNat
  let thousandths := Nat.toDigits 10 (count % 1000)
  toString (count / 1000) ++ "." ++
    String.ofList (List.replicate (3 - thousandths.length) '0' ++ thousandths) ++ "V"

end Voltage

end Mainboard
