import Mainboard.Quantity.Measure
import Mainboard.Binary64.Shortest

/-!
# Clock frequencies

Clock rates in hertz.  A clock that is written down is never zero.  Rates from
one megahertz on are printed in the larger unit when at most three decimals
are lost, as the shortest text of the 53-bit quotient.
-/

namespace Mainboard

/-- A clock rate in hertz. -/
structure Frequency where
  hertz : UInt64
  deriving DecidableEq

namespace Frequency

def measure : Measure where
  noun := "frequency"
  suffixes := [("", 1), ("Hz", 1), ("kHz", 1000), ("MHz", 1000000), ("GHz", 1000000000)]

def mhz (count : UInt64) : Frequency := ⟨count * 1000000⟩

def ghz (count : UInt64) : Frequency := ⟨count * 1000000000⟩

/-- The clock of an object whose clock is not given. -/
def standard : Frequency := ghz 1

/-- Reads a rate such as `2GHz`; no clock runs at zero hertz. -/
def read? (text : String) : Option Frequency := do
  let hertz ← measure.read? text
  if hertz = 0 then none else some ⟨hertz⟩

/-- Simulated ticks in a second; a tick is a picosecond. -/
def ticksPerSecond : UInt64 := 1000000000000

/-- The clock period in ticks.  The period of a clock that stands still is the
longest there is. -/
def periodTicks (frequency : Frequency) : UInt64 :=
  if frequency.hertz = 0 then 18446744073709551615 else ticksPerSecond / frequency.hertz

/-- The rate in a larger unit, as shortest decimal text. -/
def inUnit (frequency : Frequency) (unit : Nat) : String :=
  ((Binary64.nearest frequency.hertz.toNat 1).dividedBy unit).shortest.toText

def toText (frequency : Frequency) : String :=
  let hertz := frequency.hertz.toNat
  if 1000000000 ≤ hertz ∧ hertz % 1000000 = 0 then frequency.inUnit 1000000000 ++ "GHz"
  else if 1000000 ≤ hertz ∧ hertz % 1000 = 0 then frequency.inUnit 1000000 ++ "MHz"
  else toString hertz ++ "Hz"

def faster (left right : Frequency) : Frequency :=
  if left.hertz ≤ right.hertz then right else left

end Frequency

end Mainboard
