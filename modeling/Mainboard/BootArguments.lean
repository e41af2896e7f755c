import Mainboard.Configuration.Basic
import Mainboard.Topology.Basic

/-!
# The kernel command line

A kernel is told its console, the loops of a jiffy, its root device and the
memory of the machine, and then whatever else is configured.
-/

namespace Mainboard.BootConfiguration

def arguments (boot : BootConfiguration) (topology : Topology) : List String :=
  ["console=" ++ boot.console,
    "lpj=" ++ toString boot.loopsPerJiffy.toNat,
    "norandmaps",
    "root=" ++ boot.rootDevice,
    "rw",
    "mem=" ++ topology.requestedMemory.toKernelArgument] ++ boot.extra

def commandLine (boot : BootConfiguration) (topology : Topology) : String :=
  " ".intercalate (boot.arguments topology)

end Mainboard.BootConfiguration
