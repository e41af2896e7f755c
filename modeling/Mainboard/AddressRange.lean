import Mainboard.Saturating

/-!
# Address ranges

Half-open intervals of physical addresses.  A platform's memory regions and
the ranges carved out of them are such intervals.  The end of a range stops at
the top of the address space.
-/

namespace Mainboard

/-- The addresses from `start` on, `size` of them. -/
structure AddressRange where
  start : UInt64
  size : UInt64
  deriving DecidableEq

namespace AddressRange

def stop (range : AddressRange) : UInt64 := saturatingAdd range.start range.size

@[simp]
theorem toNat_stop (range : AddressRange) :
    range.stop.toNat = min (range.start.toNat + range.size.toNat) (UInt64.size - 1) :=
  toNat_saturatingAdd range.start range.size

def isEmpty (range : AddressRange) : Bool := range.size == 0

def containsAddress (range : AddressRange) (address : UInt64) : Bool :=
  range.start ≤ address && address < range.stop

def contains (range other : AddressRange) : Bool :=
  range.start ≤ other.start && other.stop ≤ range.stop

def overlaps (left right : AddressRange) : Bool :=
  !left.isEmpty && !right.isEmpty && left.start < right.stop && right.start < left.stop

/-- Ranges are ordered by start, then by size. -/
def order (left right : AddressRange) : Ordering :=
  (compare left.start right.start).then (compare left.size right.size)

def hexadecimal (address : UInt64) : String :=
  "0x" ++ String.ofList (Nat.toDigits 16 address.toNat)

def toText (range : AddressRange) : String :=
  "[" ++ hexadecimal range.start ++ ", " ++ hexadecimal range.stop ++ ")"

end AddressRange

end Mainboard
