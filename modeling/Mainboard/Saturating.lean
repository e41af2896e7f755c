/-!
# Sums that stop at the top

Ends of ranges, instruction caps and tick counters are 64-bit words.  Where a
sum would pass the largest word it stays there, so that an end is never below
its start and a counter never runs backwards.
-/

namespace Mainboard

/-- The sum of two words, held at the largest word when it does not fit. -/
def saturatingAdd (left right : UInt64) : UInt64 :=
  UInt64.ofNat (min (left.toNat + right.toNat) (UInt64.size - 1))

@[simp]
theorem toNat_saturatingAdd (left right : UInt64) :
    (saturatingAdd left right).toNat =
      min (left.toNat + right.toNat) (UInt64.size - 1) := by
  rw [saturatingAdd, UInt64.toNat_ofNat_of_lt']
  have : 0 < UInt64.size := by decide
  omega

end Mainboard
