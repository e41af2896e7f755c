import Mainboard.Quantity.Measure

/-!
# Byte sizes

Sizes count bytes and are written with binary multiples: `kB` and `KiB` are
both 1024 bytes.  A size is printed in the largest unit that divides it.
-/

namespace Mainboard

/-- A size in bytes. -/
structure ByteSize where
  bytes : UInt64
  deriving DecidableEq

namespace ByteSize

def measure : Measure where
  noun := "byte size"
  suffixes :=
    [("", 1), ("B", 1),
      ("kB", 1024), ("KB", 1024), ("KiB", 1024), ("k", 1024), ("K", 1024),
      ("MB", 1048576), ("MiB", 1048576), ("M", 1048576),
      ("GB", 1073741824), ("GiB", 1073741824), ("G", 1073741824),
      ("TB", 1099511627776), ("TiB", 1099511627776), ("T", 1099511627776)]

def kib (count : UInt64) : ByteSize := ⟨count * 1024⟩

def mib (count : UInt64) : ByteSize := ⟨count * 1048576⟩

def gib (count : UInt64) : ByteSize := ⟨count * 1073741824⟩

/-- Reads a size such as `32kB`. -/
def read? (text : String) : Option ByteSize :=
  (measure.read? text).map ByteSize.mk

/-- The words for one, 1024, 1024² and 1024³ bytes in one way of writing sizes,
and the word for no bytes at all. -/
structure Units where
  zero : String
  one : String
  kilo : String
  mega : String
  giga : String

def inUnits (units : Units) (size : ByteSize) : String :=
  let count := size.bytes.toNat
  if count = 0 then units.zero
  else if count % 1073741824 = 0 then toString (count / 1073741824) ++ units.giga
  else if count % 1048576 = 0 then toString (count / 1048576) ++ units.mega
  else if count % 1024 = 0 then toString (count / 1024) ++ units.kilo
  else toString count ++ units.one

def toText (size : ByteSize) : String :=
  size.inUnits ⟨"0B", "B", "KiB", "MiB", "GiB"⟩

def toKernelArgument (size : ByteSize) : String :=
  size.inUnits ⟨"0", "", "K", "M", "G"⟩

end ByteSize

end Mainboard
