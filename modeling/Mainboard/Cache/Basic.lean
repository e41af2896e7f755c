import Mainboard.Cache.Policy
import Mainboard.CoreModel
import Mainboard.Quantity.ByteSize
import Mainboard.Quantity.Frequency

/-!
# Caches

The description of one cache: its geometry, its latencies in cycles, its
miss-handling resources and its replacement policy; and the presets that cores
are composed with.
-/

namespace Mainboard

/-- The place of a cache in the hierarchy. -/
inductive CacheLevel
  | l1i
  | l1d
  | walk
  | l2
  | l3
  | io
  deriving DecidableEq

def CacheLevel.name : CacheLevel → String
  | l1i => "l1i"
  | l1d => "l1d"
  | walk => "walk"
  | l2 => "l2"
  | l3 => "l3"
  | io => "io"

/-- Whether a cache keeps the lines that move to the levels above it. -/
inductive Clusivity
  | mostlyInclusive
  | mostlyExclusive
  deriving DecidableEq

/-- The description of one cache. -/
structure Cache where
  level : CacheLevel
  size : ByteSize
  ways : UInt32
  tagLatency : UInt32
  dataLatency : UInt32
  responseLatency : UInt32
  missSlots : UInt32
  targetsPerSlot : UInt32
  writeBuffers : UInt32
  writebackClean : Bool := false
  clusivity : Clusivity := .mostlyInclusive
  policy : Policy := .lru
  clock : Option Frequency := none
  deriving DecidableEq

namespace Cache

def classicPrivate (level : CacheLevel) (size : ByteSize) : Cache where
  level
  size
  ways := 8
  tagLatency := 2
  dataLatency := 2
  responseLatency := 0
  missSlots := 16
  targetsPerSlot := 20
  writeBuffers := 16

def classicInstruction : Cache := classicPrivate .l1i (ByteSize.kib 32)

def classicData : Cache := classicPrivate .l1d (ByteSize.kib 64)

def classicWalk : Cache := classicPrivate .walk (ByteSize.kib 32)

def classicL2 : Cache where
  level := .l2
  size := ByteSize.mib 1
  ways := 16
  tagLatency := 10
  dataLatency := 10
  responseLatency := 0
  missSlots := 32
  targetsPerSlot := 20
  writeBuffers := 32
  writebackClean := true

def sharedL3 : Cache where
  level := .l3
  size := ByteSize.mib 2
  ways := 16
  tagLatency := 20
  dataLatency := 20
  responseLatency := 0
  missSlots := 64
  targetsPerSlot := 20
  writeBuffers := 64
  clusivity := .mostlyExclusive

def device : Cache where
  level := .io
  size := ByteSize.kib 1
  ways := 8
  tagLatency := 50
  dataLatency := 50
  responseLatency := 50
  missSlots := 20
  targetsPerSlot := 12
  writeBuffers := 8

def hpiInstruction : Cache where
  level := .l1i
  size := ByteSize.kib 32
  ways := 2
  tagLatency := 1
  dataLatency := 1
  responseLatency := 1
  missSlots := 2
  targetsPerSlot := 8
  writeBuffers := 8

def hpiData : Cache where
  level := .l1d
  size := ByteSize.kib 32
  ways := 4
  tagLatency := 1
  dataLatency := 1
  responseLatency := 1
  missSlots := 4
  targetsPerSlot := 8
  writeBuffers := 4

def hpiWalk : Cache where
  level := .walk
  size := ByteSize.kib 1
  ways := 8
  tagLatency := 4
  dataLatency := 4
  responseLatency := 4
  missSlots := 6
  targetsPerSlot := 8
  writeBuffers := 16

def hpiL2 : Cache where
  level := .l2
  size := ByteSize.mib 1
  ways := 16
  tagLatency := 13
  dataLatency := 13
  responseLatency := 5
  missSlots := 4
  targetsPerSlot := 8
  writeBuffers := 16
  writebackClean := true

def named : List (String × Cache) :=
  [("l1i", classicInstruction), ("l1d", classicData), ("walk", classicWalk), ("l2", classicL2),
    ("l3", sharedL3), ("io", device), ("hpi_icache", hpiInstruction), ("hpi_dcache", hpiData),
    ("hpi_walk", hpiWalk), ("hpi_l2", hpiL2)]

def baselineGeometry : CacheLevel → ByteSize × UInt32
  | .l2 | .l3 => (ByteSize.mib 2, 32)
  | .l1i | .l1d | .walk | .io => (ByteSize.kib 1024, 256)

def onBaseline (cache : Cache) : Cache :=
  { cache with
    size := (baselineGeometry cache.level).1
    ways := (baselineGeometry cache.level).2 }

/-- The number of sets for lines of some bytes; none if a set would be empty. -/
def sets (cache : Cache) (lineBytes : UInt32) : Nat :=
  cache.size.bytes.toNat / (cache.ways.toNat * lineBytes.toNat)

end Cache

/-- The presets a core model is composed with, where it has a cache at all. -/
structure CachePresets where
  l1i : Option Cache := none
  l1d : Option Cache := none
  walk : Option Cache := none
  l2 : Option Cache := none
  deriving DecidableEq

namespace CachePresets

def classic : CachePresets where
  l1i := some .classicInstruction
  l1d := some .classicData
  walk := some .classicWalk
  l2 := some .classicL2

def hpi : CachePresets where
  l1i := some .hpiInstruction
  l1d := some .hpiData
  walk := some .hpiWalk
  l2 := some .hpiL2

def none : CachePresets := {}

end CachePresets

def CoreModel.cachePresets : CoreModel → CachePresets
  | .atomic | .timing | .minor | .outOfOrder => .classic
  | .hpi => .hpi
  | .kvm | .fastModel => .none

end Mainboard
