import Mainboard.Error

/-!
# Allocating memory

The memory of a machine is carved out of its platform's regions, in their
order and from the start of each.  Every region but the last one used is taken
whole, and regions after that stay untouched.
-/

namespace Mainboard.Memory

/-- Takes `remaining` bytes from the regions; what no region could supply is
left over. -/
def carve (remaining : UInt64) : List AddressRange → List AddressRange × UInt64
  | [] => ([], remaining)
  | region :: regions =>
      if remaining = 0 then ([], 0)
      else
        let taken := min remaining region.size
        let (ranges, left) := carve (remaining - taken) regions
        if taken = 0 then (ranges, left) else (⟨region.start, taken⟩ :: ranges, left)

@[simp]
theorem carve_zero (regions : List AddressRange) : carve 0 regions = ([], 0) := by
  cases regions <;> rfl

/-- The ranges that hold the requested bytes, or what the regions could hold. -/
def allocate (requested : UInt64) (regions : List AddressRange) :
    Except Error (List AddressRange) :=
  let (ranges, left) := carve requested regions
  if left = 0 then .ok ranges
  else .error (.insufficientMemory requested (requested - left))

def total (ranges : List AddressRange) : UInt64 :=
  ranges.foldr (fun range sum => range.size + sum) 0

/-- The bytes that regions can hold, held at the largest word. -/
def capacity (regions : List AddressRange) : UInt64 :=
  regions.foldl (fun sum region => saturatingAdd sum region.size) 0

end Mainboard.Memory
