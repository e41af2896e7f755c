import Mainboard.Memory
import Mainboard.Quantity.ByteSize

/-!
# Platforms

A platform supplies the physical memory regions of a machine, in the order in
which they are used, and the place of its interrupt controller.
-/

namespace Mainboard

/-- The platforms that are known by name. -/
inductive PlatformKind
  | versatileExpress
  | virtual
  | virtualM1
  deriving DecidableEq

/-- The platform of a machine whose platform is not given. -/
def PlatformKind.standard : PlatformKind := virtual

def PlatformKind.spellings : List (String × PlatformKind) :=
  [("VExpress_GEM5_V1", versatileExpress), ("vexpress_gem5_v1", versatileExpress),
    ("QEMU_Virt", virtual), ("qemu_virt", virtual),
    ("QEMU_VirtM1", virtualM1), ("qemu_virt_m1", virtualM1)]

/-- The memory map of a machine. -/
structure Platform where
  name : String
  regions : List AddressRange
  interruptControllerAddress : Option UInt64
  deriving DecidableEq

namespace Platform

def preset : PlatformKind → Platform
  | .versatileExpress =>
      { name := "VExpress_GEM5_V1"
        regions := [⟨0x80000000, (ByteSize.gib 510).bytes⟩]
        interruptControllerAddress := some 0x2c002000 }
  | .virtual =>
      { name := "QEMU_Virt"
        regions :=
          [⟨0x40000000, (ByteSize.gib 3).bytes⟩, ⟨0x100000000, (ByteSize.gib 252).bytes⟩]
        interruptControllerAddress := some 0x08010000 }
  | .virtualM1 =>
      { name := "QEMU_VirtM1"
        regions := [⟨0x800000000, (ByteSize.gib 64).bytes⟩]
        interruptControllerAddress := none }

def custom (name : String) (regions : List AddressRange) : Platform :=
  { name, regions, interruptControllerAddress := none }

def capacity (platform : Platform) : UInt64 := Memory.capacity platform.regions

end Platform

end Mainboard
