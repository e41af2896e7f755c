import Mainboard.Configuration.Reading
import Mainboard.Session
import Mainboard.Proofs.Switching.Positions
import Mainboard.Proofs.Switching.Completion
import Mainboard.Proofs.Run.Replay
import Mainboard.Proofs.Run.Schedule
import Mainboard.Proofs.Switching.FirstFidelity
import Mainboard.Proofs.Bench.Traces
import Mainboard.Proofs.Run.Requests
import Mainboard.Proofs.Run.Checkpoints
import Mainboard.Proofs.Topology.Composition
import Mainboard.Proofs.Topology.Ends
import Mainboard.Proofs.Topology.WellFormed
import Mainboard.Proofs.Topology.Routes
import Mainboard.Proofs.Topology.Acceptance
import Mainboard.Proofs.Cache.Splits
import Mainboard.Proofs.Run.Budgets
import Mainboard.Proofs.Topology.Limits
import Mainboard.Proofs.Memory.Regions
import Mainboard.Proofs.Memory.Addresses
import Mainboard.Proofs.Run.Preparation
import Mainboard.Proofs.Run.ExitCodes
import Mainboard.Proofs.Run.Failures
import Mainboard.Proofs.Topology.Levels
import Mainboard.Proofs.Run.Statistics
import Mainboard.Proofs.Topology.Numbering
import Mainboard.Proofs.Topology.Ignored
import Mainboard.Proofs.Topology.Separation
import Mainboard.Proofs.Topology.Devices
import Mainboard.Proofs.Topology.Monitors
import Mainboard.Proofs.Topology.Starvation
import Mainboard.Proofs.Run.HalfSwitched
import Mainboard.Proofs.Switching.Admission
import Mainboard.Proofs.Switching.InstanceNames
import Mainboard.Proofs.Configuration.Documents
import Mainboard.Proofs.Switching.Reversion
import Mainboard.Proofs.Switching.Independence
import Mainboard.Proofs.Run.WarmUpLengths
import Mainboard.Proofs.Cache.Geometry
import Mainboard.Proofs.Quantity.Printing
import Mainboard.Proofs.Topology.Attribution
import Mainboard.Proofs.Memory.Relations
