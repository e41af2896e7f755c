import Mainboard.Cluster.Basic

/-!
# Performance monitors

Monitors are attached once the caches they observe are built: a monitor counts
at its core and its translation buffers, at the core's private caches if it
has them, and at the cluster's second level if there is one.
-/

namespace Mainboard

def Core.eventSources (core : Core) (hasL2 : Bool) : List EventSource :=
  [.core, .itb, .dtb] ++ (if core.caches.isSome then [.icache, .dcache] else []) ++
    (if hasL2 then [.l2] else [])

def Core.withMonitor (core : Core) (hasL2 : Bool) (interrupt : UInt32) (events : List String) :
    Core :=
  { core with
    monitor := some ⟨.ofNumber interrupt, core.eventSources hasL2, events⟩ }

namespace Cluster

/-- Attaches a monitor to each core, with the interrupts in core order. -/
def addMonitors (cluster : Cluster) (interrupts : List UInt32) (events : List String) :
    Except Error Cluster :=
  if interrupts.length = cluster.cores.length then
    .ok { cluster with
      cores := List.zipWith
        (fun core interrupt => core.withMonitor cluster.l2.isSome interrupt events)
        cluster.cores interrupts }
  else .error (.interruptCount cluster.index interrupts.length cluster.cores.length)

def addRequestedMonitors (cluster : Cluster) : Except Error Cluster :=
  match cluster.monitors with
  | none => .ok cluster
  | some request => cluster.addMonitors request.interrupts request.events

end Cluster

end Mainboard
