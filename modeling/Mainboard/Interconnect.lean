import Mainboard.AddressRange
import Mainboard.Cache.Basic

/-!
# The interconnect

Buses, bridges and links of a machine, in the order in which they are made.
An end of a link goes by its name: the name of an object, a point, and the name
of one of its sides.  Every machine starts with a memory bus, a device bus, a
bridge between them and a path by which devices reach memory.
-/

namespace Mainboard

/-- What a bus is for; crossbars in front of caches have a width in bytes. -/
inductive BusKind
  | memory
  | devices
  | l2 (width : UInt32)
  | l3 (width : UInt32)
  deriving DecidableEq

/-- A bus with its name and, if it has one of its own, its clock. -/
structure Bus where
  name : String
  kind : BusKind
  clock : Option Frequency := none
  deriving DecidableEq

/-- A bridge between two buses.  It forwards its ranges, or everything if it has none. -/
structure Bridge where
  name : String
  delayNanoseconds : UInt32 := 50
  ranges : List AddressRange
  deriving DecidableEq

/-- How devices reach memory. -/
inductive DevicePath
  | cached (cache : Cache) (ranges : List AddressRange)
  | bridged (bridge : Bridge)
  deriving DecidableEq

namespace DevicePath

def name : DevicePath → String
  | cached .. => "iocache"
  | bridged bridge => bridge.name

def memorySide : DevicePath → String
  | cached .. => "mem_side"
  | bridged _ => "mem_side_port"

def deviceSide : DevicePath → String
  | cached .. => "cpu_side"
  | bridged _ => "cpu_side_port"

/-- The path through a cache, if there is one, for accesses to some ranges. -/
def ofCache? (ranges : List AddressRange) : Option Cache → DevicePath
  | some cache => cached cache ranges
  | none => bridged { name := "dmabridge", ranges }

end DevicePath

/-- A connection from a requesting end to a responding end. -/
structure Link where
  source : String
  target : String
  deriving DecidableEq

namespace Link

def toText (link : Link) : String := link.source ++ " -> " ++ link.target

def isFrom (link : Link) (owner : String) : Bool :=
  (owner.toList ++ ['.']).isPrefixOf link.source.toList

end Link

/-- The buses, bridges and links of a machine. -/
structure Interconnect where
  buses : List Bus
  deviceBridge : Bridge
  devicePath : DevicePath
  links : List Link
  deriving DecidableEq

namespace Interconnect

def memoryBus : String := "membus"

def deviceBus : String := "iobus"

def l3Bus : String := "toL3Bus"

def respondingSide (bus : String) : String := bus ++ ".cpu_side_ports"

def requestingSide (bus : String) : String := bus ++ ".mem_side_ports"

/-- The links of every machine: cores reach devices through the bridge and
devices reach memory along their path. -/
def baseLinks (path : DevicePath) : List Link :=
  [⟨"iobridge.mem_side_port", respondingSide deviceBus⟩,
    ⟨requestingSide memoryBus, "iobridge.cpu_side_port"⟩,
    ⟨path.name ++ "." ++ path.memorySide, respondingSide memoryBus⟩,
    ⟨requestingSide deviceBus, path.name ++ "." ++ path.deviceSide⟩,
    ⟨"system_port", respondingSide memoryBus⟩]

def base (ranges : List AddressRange) (cache : Option Cache) : Interconnect :=
  let path := DevicePath.ofCache? ranges cache
  { buses := [{ name := memoryBus, kind := .memory }, { name := deviceBus, kind := .devices }]
    deviceBridge := { name := "iobridge", ranges := [] }
    devicePath := path
    links := baseLinks path }

def addBuses (interconnect : Interconnect) (buses : List Bus) : Interconnect :=
  { interconnect with buses := interconnect.buses ++ buses }

def addLinks (interconnect : Interconnect) (links : List Link) : Interconnect :=
  { interconnect with links := interconnect.links ++ links }

@[simp]
theorem links_addBuses (interconnect : Interconnect) (buses : List Bus) :
    (interconnect.addBuses buses).links = interconnect.links :=
  rfl

def bus? (interconnect : Interconnect) (name : String) : Option Bus :=
  interconnect.buses.find? (·.name = name)

def isLinked (interconnect : Interconnect) (source target : String) : Bool :=
  interconnect.links.any (· = ⟨source, target⟩)

def linksFrom (interconnect : Interconnect) (owner : String) : List Link :=
  interconnect.links.filter (·.isFrom owner)

end Interconnect

end Mainboard
