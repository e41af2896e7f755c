import Mainboard.Configuration.Basic
import Mainboard.Topology.Assembly

/-!
# Composing the configured machine

The machine of a configuration is composed in order: the depth is checked, the
memory is allocated, the clusters are added, and the blueprint is assembled.
The first condition that fails is the error.
-/

namespace Mainboard.Configuration

def clusterRequests (configuration : Configuration) : List ClusterRequest :=
  configuration.clusters.map (·.request configuration.run.warmupInstructions)

/-- The empty blueprint of a configuration.  Devices have a cache when cores have caches. -/
def startBlueprint (configuration : Configuration) : Except Error Blueprint :=
  Blueprint.start configuration.machinePlatform configuration.memorySize configuration.memoryMode
    (configuration.cachesEnabled && configuration.memoryMode = .timing)

def topology (configuration : Configuration) : Except Error Topology := do
  Topology.checkDepth configuration.depth
  let empty ← configuration.startBlueprint
  let blueprint ← empty.addClusters configuration.clusterRequests
  blueprint.assemble configuration.depth configuration.cachesEnabled

end Mainboard.Configuration
